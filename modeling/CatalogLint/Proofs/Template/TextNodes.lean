import CatalogLint.Proofs.Template.Interpolations
import CatalogLint.Proofs.Template.Spacing

/-! # Texts between tags

    A template is a sequence of tags with text around them.  The sweep for texts between tags
    looks for a `>` and takes the `<` of the next tag with the text before it, so a match ends
    inside that tag, and the next one begins with its `>`.

    * So from one tag to the next the sweep finds just the text between them
      (`matchesFrom_segments`), and over a page each text but the first and the last
      (`sweep_scanTextNode_page`).
    * Of the findings about a page those about texts between tags are the ones of this sweep
      (`filter_isBetweenMarkups`), so every text between two tags is examined once
      (`text_nodes_are_examined_once`). -/

namespace CatalogLint.Template

open Text Unicode
open String (utf8Len)

variable {name : String} {exclusions : SortedSet}

/-! ## Pages -/

/-- A text without angle brackets. -/
structure Stretch where
  chars : List Char
  isTextChar_chars : ∀ c ∈ chars, isTextChar c = true

/-- A tag, as far as its brackets tell, and the text behind it. -/
structure Segment where
  inner : Stretch
  text : Stretch

/-- A template of tags with text around them. -/
structure Page where
  head : Stretch
  segments : List Segment

/-- A tag and the text behind it as they are written. -/
def Segment.chars (segment : Segment) : List Char :=
  '<' :: (segment.inner.chars ++ '>' :: segment.text.chars)

/-- A page as it is written. -/
def Page.chars (page : Page) : List Char :=
  page.head.chars ++ page.segments.flatMap Segment.chars

/-- A text between two tags, with all that is written before it. -/
structure TextNode where
  before : List Char
  text : List Char

/-- What is written before the first character of a text that is not white space. -/
def TextNode.ahead (node : TextNode) : List Char :=
  node.before ++ node.text.takeWhile isBlank

/-- The texts between tags in a sequence of tags with text behind them: the text behind each
    tag but the last. -/
def textNodesFrom (before : List Char) : List Segment → List TextNode
  | [] => []
  | [_] => []
  | segment :: next :: segments =>
      ⟨before ++ '<' :: (segment.inner.chars ++ ['>']), segment.text.chars⟩
        :: textNodesFrom (before ++ segment.chars) (next :: segments)

/-- The texts between the tags of a page. -/
def Page.textNodes (page : Page) : List TextNode :=
  textNodesFrom page.head.chars page.segments

/-- There is one text for each tag but the last. -/
theorem map_text_textNodesFrom (before : List Char) (segments : List Segment) :
    (textNodesFrom before segments).map TextNode.text
      = segments.dropLast.map (·.text.chars) := by
  fun_induction textNodesFrom before segments with
  | case1 => rfl
  | case2 => rfl
  | case3 before segment next segments ih =>
      rw [List.map_cons, ih, List.dropLast_cons_cons, List.map_cons]

/-- A text between two tags stands in the page where it says. -/
theorem exists_of_mem_textNodesFrom {before : List Char} {segments : List Segment}
    {node : TextNode} (h : node ∈ textNodesFrom before segments) :
    ∃ after, before ++ segments.flatMap Segment.chars = node.before ++ (node.text ++ after) := by
  fun_induction textNodesFrom before segments with
  | case1 => exact nomatch h
  | case2 => exact nomatch h
  | case3 before segment next segments ih =>
      rw [List.flatMap_cons, ← List.append_assoc]
      rcases List.mem_cons.mp h with rfl | hmem
      · refine ⟨(next :: segments).flatMap Segment.chars, ?_⟩
        simp only [Segment.chars, List.append_assoc, List.cons_append, List.nil_append]
      · exact ih hmem

/-! ## The sweep over a page -/

/-- A text between tags is looked for at each `>`. -/
theorem beginsWith_scanTextNode (name : String) : BeginsWith (scanTextNode name) '>' := by
  intro previous d rest hd
  unfold scanTextNode
  split
  · rename_i heq
    exact absurd (List.cons.inj heq).1 hd
  · rfl

/-- A text that is not followed by a tag is none between tags. -/
theorem scanTextNode_end {text : List Char} (htext : ∀ c ∈ text, isTextChar c = true) :
    scanTextNode name none ('>' :: text) = none := by
  have htake : text.takeWhile (fun c => c != '<' && c != '>') = text :=
    List.takeWhile_eq_self_iff.mpr htext
  rw [scanTextNode, htake]
  simp only [List.drop_length]

/-- An angle bracket does not stand in a text without angle brackets. -/
theorem Stretch.notMem (stretch : Stretch) {c : Char} (hc : isTextChar c = false) :
    c ∉ stretch.chars :=
  notMem_of_forall_eq stretch.isTextChar_chars hc

/-- The sweep passes over a tag as far as its `>`. -/
theorem matchesFrom_tag (name : String) (before : List Char) (inner : Stretch) (rest : List Char) :
    matchesFrom (scanTextNode name) before 0 ('<' :: (inner.chars ++ '>' :: rest))
      = matchesFrom (scanTextNode name) (before ++ '<' :: inner.chars) 0 ('>' :: rest) := by
  have hcloser : '>' ∉ '<' :: inner.chars :=
    List.not_mem_cons_of_ne_of_not_mem (by decide) (inner.notMem (by decide))
  exact (beginsWith_scanTextNode name).matchesFrom_append hcloser before ('>' :: rest)

/-- At the `>` of a tag the sweep takes the text as far as the next tag, and the `<` of that
    tag with it. -/
theorem matchesFrom_textNode (name : String) (before : List Char) (text : Stretch)
    (rest : List Char) :
    matchesFrom (scanTextNode name) before 0 ('>' :: (text.chars ++ '<' :: rest))
      = ⟨before, ⟨textCandidate name text.chars, text.chars.length + 1,
            (text.chars.takeWhile isBlank).length + 1⟩, '>' :: (text.chars ++ '<' :: rest)⟩
        :: matchesFrom (scanTextNode name) (before ++ '>' :: text.chars) 0 ('<' :: rest) := by
  have hscan := @scanTextNode_opener text.chars name text.isTextChar_chars rest
  have hmore : text.chars ++ '<' :: rest = (text.chars ++ ['<']) ++ rest :=
    List.append_cons text.chars '<' rest
  have hopener : '>' ∉ ['<'] := by decide
  have hlength : text.chars.length + 1 = (text.chars ++ ['<']).length := by
    rw [List.length_append, List.length_singleton]
  have hbehind : before ++ '>' :: (text.chars ++ ['<']) = before ++ '>' :: text.chars ++ ['<'] := by
    rw [List.append_assoc, List.cons_append]
  rw [← looksAhead_scanTextNode name before.getLast?, hmore] at hscan
  rw [hmore, matchesFrom_of_eq_some hscan hlength, hbehind,
    ← (beginsWith_scanTextNode name).matchesFrom_append hopener, List.singleton_append]

/-- Behind the last tag the sweep finds nothing. -/
theorem matchesFrom_end (name : String) (before : List Char) (text : Stretch) :
    matchesFrom (scanTextNode name) before 0 ('>' :: text.chars) = [] := by
  have hscan := @scanTextNode_end name text.chars text.isTextChar_chars
  have hplain := (beginsWith_scanTextNode name).matchesFrom_append (text.notMem (by decide))
    (before ++ ['>']) []
  rw [← looksAhead_scanTextNode name before.getLast?] at hscan
  rw [matchesFrom_of_eq_none hscan, ← List.append_nil text.chars, hplain]
  rfl

/-- **From one tag to the next the sweep finds the text between them.** -/
theorem matchesFrom_segments (name : String) (before : List Char) (segments : List Segment) :
    (matchesFrom (scanTextNode name) before 0 (segments.flatMap Segment.chars)).map
        (fun found => (found.hit.value, found.ahead))
      = (textNodesFrom before segments).map fun node =>
          (textCandidate name node.text, node.ahead) := by
  fun_induction textNodesFrom before segments with
  | case1 => rfl
  | case2 before segment =>
      rw [List.flatMap_cons, List.flatMap_nil, List.append_nil, Segment.chars, matchesFrom_tag,
        matchesFrom_end]
      rfl
  | case3 before segment next segments ih =>
      obtain ⟨rest, hrest⟩ : ∃ rest, (next :: segments).flatMap Segment.chars = '<' :: rest :=
        ⟨_, List.flatMap_cons⟩
      have hwritten : (segment :: next :: segments).flatMap Segment.chars
          = '<' :: (segment.inner.chars ++ '>' :: (segment.text.chars ++ '<' :: rest)) := by
        rw [List.flatMap_cons, hrest, Segment.chars, List.cons_append, List.append_assoc,
          List.cons_append]
      have hbehind : before ++ '<' :: segment.inner.chars ++ '>' :: segment.text.chars
          = before ++ segment.chars := by
        rw [Segment.chars, List.append_assoc, List.cons_append]
      have hprefix : segment.text.chars.takeWhile isBlank
          <+: segment.text.chars ++ '<' :: rest :=
        (List.takeWhile_prefix isBlank).trans (List.prefix_append ..)
      rw [hrest] at ih
      rw [hwritten, matchesFrom_tag, matchesFrom_textNode, hbehind, List.map_cons, ih,
        List.map_cons]
      refine congrArg (· :: _) (congrArg (Prod.mk _) ?_)
      show before ++ '<' :: segment.inner.chars
        ++ '>' :: (segment.text.chars ++ '<' :: rest).take
          (segment.text.chars.takeWhile isBlank).length = _
      rw [← List.prefix_iff_eq_take.mp hprefix, TextNode.ahead]
      simp only [List.append_assoc, List.cons_append, List.nil_append]

/-- The sweep over a page finds each text between two tags once, on the line of its first
    character that is not white space. -/
theorem sweep_scanTextNode_page (name : String) (page : Page) :
    sweep (scanTextNode name) page.chars
      = page.textNodes.map fun node =>
          ⟨textCandidate name node.text, lineOf page.chars (utf8Len node.ahead)⟩ := by
  have hmatches : (matchesOf (scanTextNode name) page.chars).map
        (fun found => (found.hit.value, found.ahead))
      = page.textNodes.map fun node => (textCandidate name node.text, node.ahead) := by
    rw [matchesOf, Page.chars, (beginsWith_scanTextNode name).matchesFrom_append
      (page.head.notMem (by decide)), List.nil_append]
    exact matchesFrom_segments name page.head.chars page.segments
  have hlines := congrArg
    (List.map fun found => (⟨found.1, lineOf page.chars (utf8Len found.2)⟩ : Located Candidate))
    hmatches
  rw [List.map_map, List.map_map] at hlines
  rw [sweep_eq_map_lineOf]
  exact hlines

/-! ## The findings about a page -/

/-- The finding about a text between tags: it quotes the cleaned text, at the line of its first
    character that is not white space. -/
def TextNode.finding (name : String) (content : List Char) (node : TextNode) : Finding :=
  let message := "Non-translated text between mark-ups in " ++ name ++ ": \""
    ++ String.ofList (clean node.text) ++ "\""
  ((Finding.warning .untranslatedText message).atLine
    (lineOf content (utf8Len node.ahead))).inFile name

/-- A text that is all white space has no text of its own. -/
theorem hasText_clean_of_blank {text : List Char} (h : ∀ c ∈ text, isBlank c = true) :
    hasText (clean text) = false := by
  have hlayout : SameLayout [] text := .rel _ _ (.finish [] h)
  rw [← hlayout.clean_eq]
  rfl

/-- Where a text has text of its own, a character that is not white space stands behind what
    is ahead of it. -/
theorem TextNode.exists_of_hasText {node : TextNode} (h : hasText (clean node.text) = true)
    (after : List Char) :
    ∃ c rest, isBlank c = false
      ∧ node.before ++ (node.text ++ after) = node.ahead ++ c :: rest := by
  have hsplit : node.text.takeWhile isBlank ++ node.text.dropWhile isBlank = node.text :=
    List.takeWhile_append_dropWhile
  cases hback : node.text.dropWhile isBlank with
  | nil =>
      rw [List.dropWhile_eq_nil_iff] at hback
      rw [hasText_clean_of_blank hback] at h
      exact nomatch h
  | cons c rest =>
      have hhead := List.head?_dropWhile_not isBlank node.text
      rw [hback] at hhead hsplit
      refine ⟨c, rest ++ after, by simpa using hhead, ?_⟩
      rw [ahead, List.append_assoc, ← List.cons_append, ← List.append_assoc _ (c :: rest), hsplit]

/-- **Every text between two tags is examined once.**  The findings about texts between the
    tags of a page are, in order, one for each text that stands between two tags, has text of
    its own once it is cleaned, and is not excluded; the finding quotes the cleaned text, and
    it is at the line of the first character of the text that is not white space.  The text
    before the first tag and the one behind the last give none. -/
theorem text_nodes_are_examined_once (exclusions : SortedSet) (name : String) (page : Page) :
    (literalFindings exclusions name page.chars).filter IsBetweenMarkups
        = (page.textNodes.filter (isLiteral exclusions <| clean ·.text)).map
            (TextNode.finding name page.chars)
      ∧ page.textNodes.map TextNode.text = page.segments.dropLast.map (·.text.chars)
      ∧ ∀ node ∈ page.textNodes, hasText (clean node.text) = true →
          ∃ c rest, isBlank c = false ∧ page.chars = node.ahead ++ c :: rest := by
  refine ⟨?_, map_text_textNodesFrom _ _, ?_⟩
  · rw [filter_isBetweenMarkups, sweep_scanTextNode_page, List.filter_map, List.map_map]
    rfl
  · intro node hmem htext
    obtain ⟨after, hpage⟩ := exists_of_mem_textNodesFrom hmem
    rw [Page.chars, hpage]
    exact TextNode.exists_of_hasText htext after

/-- Of the texts between six tags two have text of their own, and one of the two is excluded. -/
theorem text_nodes_of_adjacent_tags_are_examined_once :
    (literalFindings (SortedSet.insert .empty "kept") "view.html"
        "no\n<p>\n some&nbsp; <b></b></p><i>kept</i>no".toList).filter IsBetweenMarkups
      = [⟨.untranslatedText, .warning,
          "Non-translated text between mark-ups in view.html: \"some\"", some 3,
          some "view.html"⟩] := by
  let segment (inner text : List Char) (hinner : inner.all isTextChar = true)
      (htext : text.all isTextChar = true) : Segment :=
    ⟨⟨inner, List.all_eq_true.mp hinner⟩, ⟨text, List.all_eq_true.mp htext⟩⟩
  let page : Page := ⟨⟨"no\n".toList, List.all_eq_true.mp (by decide)⟩, [
    segment "p".toList "\n some&nbsp; ".toList (by decide) (by decide),
    segment "b".toList [] (by decide) (by decide),
    segment "/b".toList [] (by decide) (by decide),
    segment "/p".toList [] (by decide) (by decide),
    segment "i".toList "kept".toList (by decide) (by decide),
    segment "/i".toList "no".toList (by decide) (by decide)]⟩
  have hpage : "no\n<p>\n some&nbsp; <b></b></p><i>kept</i>no".toList = page.chars := by
    decide +kernel
  rw [hpage, (text_nodes_are_examined_once _ _ page).1]
  decide +kernel

end CatalogLint.Template
