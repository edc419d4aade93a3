import CatalogLint.Proofs.Template.Candidates
import CatalogLint.Proofs.Template.Cleaning

/-! # Texts of interpolations

    The text of an element is a sequence of interpolations, white space and entities.  It is
    to be translated nowhere, so nothing of it is to be reported as text between tags.

    * If a text of white space and interpolations alone is cleaned, it is one still
      (`Interpolated.clean`), and no text is left of it (`Interpolated.hasText_eq_false`);
    * a candidate between two tags is the text between them, and the other candidates of this
      kind are those of the template without it (`exists_valuesOf_textNode`);
    * so interpolations are not reported, if a sweep sees each of them whole
      (`whole_interpolations_are_not_reported`): an angle bracket in an expression ends the
      text of the element for a sweep, and an entity between two braces brings them together
      once it goes (`cut_interpolations_are_reported`). -/

namespace CatalogLint.Template

open Text Unicode

variable {text rest body : List Char} {name : String} {exclusions : SortedSet}

/-! ## Interpolations -/

/-- The mark that an interpolation ends with. -/
def closeBraces : List Char :=
  ['\x7d', '\x7d']

/-- An interpolation, which ends with the first double brace behind its start. -/
structure Interpolation where
  body : List Char
  ends_first : ¬ closeBraces <:+: body ++ ['\x7d']

/-- An interpolation as it is written. -/
def Interpolation.chars (interpolation : Interpolation) : List Char :=
  '\x7b' :: '\x7b' :: (interpolation.body ++ closeBraces)

/-- A piece of the text of an element that holds nothing to be translated. -/
inductive ElementPart where
  | blank (c : Char) (isBlank_c : isBlank c = true)
  | entity (written : Entity)
  | interpolation (written : Interpolation)

/-- A piece as it is written. -/
def ElementPart.chars : ElementPart → List Char
  | blank c _ => [c]
  | entity written => written.chars
  | interpolation written => written.chars

/-- The text of an element as it is written. -/
def elementText (parts : List ElementPart) : List Char :=
  parts.flatMap ElementPart.chars

/-- An interpolation is whole to a sweep over the texts between tags: no angle bracket cuts
    it, and it still ends with its first double brace when its entities are gone. -/
structure Interpolation.Whole (interpolation : Interpolation) : Prop where
  opener_notMem : '<' ∉ interpolation.body
  closer_notMem : '>' ∉ interpolation.body
  ends_first : ¬ closeBraces <:+: removeEntities interpolation.body ++ ['\x7d']

/-! ## Text of interpolations alone -/

/-- A text of white space and interpolations. -/
inductive Interpolated : List Char → Prop where
  | nil : Interpolated []
  | blank {c : Char} {rest : List Char} (hc : isBlank c = true) (hrest : Interpolated rest) :
      Interpolated (c :: rest)
  | interpolation {rest : List Char} (interpolation : Interpolation)
      (hrest : Interpolated rest) : Interpolated (interpolation.chars ++ rest)

/-- An interpolation is written from its braces on. -/
theorem Interpolation.chars_append (interpolation : Interpolation) (rest : List Char) :
    interpolation.chars ++ rest
      = '\x7b' :: '\x7b' :: (interpolation.body ++ '\x7d' :: '\x7d' :: rest) := by
  simp only [chars, closeBraces, List.cons_append, List.append_assoc, List.nil_append]

/-- The text of an element is written from its first piece on. -/
theorem elementText_cons (part : ElementPart) (parts : List ElementPart) :
    elementText (part :: parts) = part.chars ++ elementText parts :=
  List.flatMap_cons

/-- Without its entities the text of an element is white space and interpolations. -/
theorem interpolated_removeEntities {parts : List ElementPart}
    (h : ∀ interpolation, .interpolation interpolation ∈ parts → interpolation.Whole) :
    Interpolated (removeEntities (elementText parts)) := by
  have hbrace : Entity.Stops '\x7b' := ⟨by decide, by decide, by decide, by decide⟩
  have hclose : Entity.Stops '\x7d' := ⟨by decide, by decide, by decide, by decide⟩
  induction parts with
  | nil => exact .nil
  | cons part parts ih =>
      have hrest : Interpolated (removeEntities (elementText parts)) :=
        ih fun other hother => h other (List.mem_cons_of_mem part hother)
      rw [elementText_cons]
      cases part with
      | blank c hc =>
          show Interpolated (removeEntities (c :: elementText parts))
          rw [removeEntities_cons]
          · exact .blank hc hrest
          · intro entity tail heq
            obtain rfl : c = '&' := (List.cons.inj heq).1
            exact absurd hc (by decide)
      | entity entity =>
          show Interpolated (removeEntities (entity.chars ++ elementText parts))
          rw [removeEntities_entity]
          exact hrest
      | interpolation interpolation =>
          have hwhole : interpolation.Whole := h interpolation List.mem_cons_self
          have hgone := Interpolated.interpolation ⟨_, hwhole.ends_first⟩ hrest
          rw [Interpolation.chars_append] at hgone
          show Interpolated (removeEntities (interpolation.chars ++ elementText parts))
          rw [Interpolation.chars_append, removeEntities_stop hbrace, removeEntities_stop hbrace,
            removeEntities_append_stop hclose, removeEntities_stop hclose]
          exact hgone

namespace Interpolated

/-- Such a text remains one when its white space is collapsed. -/
theorem collapseFrom (h : Interpolated text) (inRun : Bool) :
    Interpolated (collapseFrom inRun text) := by
  have hbrace : isBlank '\x7b' = false := by decide
  have hclose : isBlank '\x7d' = false := by decide
  induction h generalizing inRun with
  | nil => exact .nil
  | blank hc hrest ih =>
      rw [Template.collapseFrom, if_pos hc]
      cases inRun with
      | true => exact ih true
      | false => exact .blank (by decide) (ih true)
  | @interpolation rest interpolation hrest ih =>
      have hends :
          ¬ closeBraces <:+: Template.collapseFrom false interpolation.body ++ ['\x7d'] := by
        intro hinfix
        have hcollapsed : closeBraces
            <:+: Template.collapseFrom false (interpolation.body ++ ['\x7d']) := by
          rw [collapseFrom_append hclose]
          exact hinfix
        exact interpolation.ends_first (pair_infix_of_collapseFrom hclose hclose hcollapsed)
      have hcollapsed := Interpolated.interpolation ⟨_, hends⟩ (ih false)
      rw [Interpolation.chars_append] at hcollapsed ⊢
      simp only [Template.collapseFrom, hbrace, hclose, collapseFrom_append hclose,
        Bool.false_eq_true, if_false]
      exact hcollapsed

/-- Such a text remains one without the white space at its start. -/
theorem trimStart (h : Interpolated text) : Interpolated (trimStart text) := by
  induction h with
  | nil => exact .nil
  | @blank c rest hc hrest ih =>
      rw [Unicode.trimStart, List.dropWhile_cons, if_pos hc]
      exact ih
  | interpolation interpolation hrest => exact .interpolation interpolation hrest

/-- Such a text remains one without white space at its end. -/
theorem of_append {front blanks : List Char} (h : Interpolated (front ++ blanks))
    (hblanks : ∀ c ∈ blanks, isBlank c = true) : Interpolated front := by
  generalize htext : front ++ blanks = text at h
  induction h generalizing front with
  | nil =>
      obtain ⟨rfl, -⟩ := List.append_eq_nil_iff.mp htext
      exact .nil
  | @blank c rest hc hrest ih =>
      cases front with
      | nil => exact .nil
      | cons d front =>
          obtain ⟨rfl, hrest⟩ := List.cons.inj htext
          exact .blank hc (ih hrest)
  | @interpolation rest interpolation hrest ih =>
      rcases List.append_eq_append_iff.mp htext with
        ⟨inside, hinside, hblank⟩ | ⟨inside, rfl, hrest⟩
      · cases inside with
        | nil =>
            obtain rfl : front = interpolation.chars := by rw [hinside, List.append_nil]
            have hfront := Interpolated.interpolation interpolation .nil
            rwa [List.append_nil] at hfront
        | cons c inside =>
            -- the last brace of the interpolation would be white space
            have hlast : interpolation.chars.getLast? = some '\x7d' := by
              have hchars : interpolation.chars
                  = ('\x7b' :: '\x7b' :: interpolation.body ++ ['\x7d']) ++ ['\x7d'] := by
                simp [Interpolation.chars, closeBraces]
              rw [hchars, List.getLast?_concat]
            rw [hinside, List.getLast?_append_cons] at hlast
            have hmem : '\x7d' ∈ blanks :=
              hblank ▸ List.mem_append_left rest (List.mem_of_getLast? hlast)
            exact absurd (hblanks _ hmem) (by decide)
      · exact .interpolation interpolation (ih hrest.symm)

/-- Such a text remains one when it is trimmed. -/
theorem trim (h : Interpolated text) : Interpolated (trim text) := by
  obtain ⟨blanks, hblanks, htext⟩ := exists_trimEnd_append (Unicode.trimStart text)
  exact of_append (htext.symm ▸ h.trimStart) hblanks

/-- Such a text remains one when it is cleaned, if it is one without its entities. -/
theorem clean (h : Interpolated (removeEntities text)) : Interpolated (clean text) :=
  (h.collapseFrom false).trim

end Interpolated

/-! ## What is left outside interpolations -/

/-- Interpolations are found whatever stands before them. -/
theorem looksAhead_scanInterpolation : LooksAhead scanInterpolation := by
  intro before text
  unfold scanInterpolation
  split <;> rfl

/-- An interpolation ends with the first double brace behind its start. -/
theorem splitOnce_closeBraces (interpolation : Interpolation) (rest : List Char) :
    splitOnce closeBraces (interpolation.body ++ '\x7d' :: '\x7d' :: rest)
      = some (interpolation.body, rest) :=
  splitOnce_append_of_dropLast (by decide) interpolation.ends_first rest

/-- An interpolation goes. -/
theorem substitute_interpolation (interpolation : Interpolation) (rest : List Char) :
    substitute scanInterpolation (interpolation.chars ++ rest)
      = substitute scanInterpolation rest := by
  have hscan : scanInterpolation none (interpolation.chars ++ rest)
      = some { value := [], more := interpolation.body.length + 3 } := by
    rw [Interpolation.chars_append, scanInterpolation, ← closeBraces, splitOnce_closeBraces]
  refine looksAhead_scanInterpolation.substitute_of_eq_some hscan ?_
  simp [Interpolation.chars, closeBraces]

/-- White space stays. -/
theorem substitute_blank {c : Char} (hc : isBlank c = true) (rest : List Char) :
    substitute scanInterpolation (c :: rest) = c :: substitute scanInterpolation rest := by
  refine looksAhead_scanInterpolation.substitute_of_eq_none ?_
  unfold scanInterpolation
  split
  · rename_i heq
    obtain rfl : c = '\x7b' := (List.cons.inj heq).1
    exact absurd hc (by decide)
  · rfl

/-- **No text is left of white space and interpolations.** -/
theorem Interpolated.hasText_eq_false (h : Interpolated text) : hasText text = false := by
  rw [hasText, List.any_eq_false]
  induction h with
  | nil => exact fun c hc => nomatch hc
  | @blank c rest hc hrest ih =>
      rw [substitute_blank hc]
      intro d hd
      rcases List.mem_cons.mp hd with rfl | hmem
      · simp [hc]
      · exact ih d hmem
  | interpolation interpolation hrest ih =>
      rw [substitute_interpolation]
      exact ih

/-! ## Texts between tags -/

/-- Texts between tags are found whatever stands before them. -/
theorem looksAhead_scanTextNode (name : String) : LooksAhead (scanTextNode name) := by
  intro before text
  unfold scanTextNode
  split <;> rfl

/-- A character is no angle bracket. -/
def isTextChar (c : Char) : Bool :=
  c != '<' && c != '>'

/-- A text without angle brackets is a candidate between a `>` and a `<`. -/
theorem scanTextNode_opener (htext : ∀ c ∈ text, isTextChar c = true) (rest : List Char) :
    scanTextNode name none ('>' :: (text ++ '<' :: rest))
      = some {
          value := textCandidate name text
          more := text.length + 1
          offset := (text.takeWhile isBlank).length + 1 } := by
  have htake : (text ++ '<' :: rest).takeWhile (fun c => c != '<' && c != '>') = text :=
    takeWhile_append_cons htext (by decide) rest
  rw [scanTextNode, htake]
  simp only [List.drop_left]
  rfl

/-- Such a text is found, and then what stands behind it. -/
theorem valuesOf_textNode (name : String) (htext : ∀ c ∈ text, isTextChar c = true)
    (rest : List Char) :
    valuesOf (scanTextNode name) ('>' :: (text ++ '<' :: rest))
      = textCandidate name text :: valuesOf (scanTextNode name) rest := by
  have hscan := @scanTextNode_opener text name htext rest
  have hmatched : '>' :: (text ++ '<' :: rest) = ('>' :: (text ++ ['<'])) ++ rest := by simp
  rw [hmatched] at hscan ⊢
  exact (looksAhead_scanTextNode name).valuesOf_of_eq_some hscan (by simp)

/-- A text without angle brackets is none between two `>`. -/
theorem scanTextNode_closer (htext : ∀ c ∈ text, isTextChar c = true) (rest : List Char) :
    scanTextNode name none ('>' :: (text ++ '>' :: rest)) = none := by
  have htake : (text ++ '>' :: rest).takeWhile (fun c => c != '<' && c != '>') = text :=
    takeWhile_append_cons htext (by decide) rest
  rw [scanTextNode, htake]
  simp only [List.drop_left]
  rfl

/-- Behind a `>` there is a text as far as the next angle bracket. -/
theorem exists_run (front : List Char) :
    (∃ run tail, front = run ++ '<' :: tail ∧ ∀ c ∈ run, isTextChar c = true)
      ∨ ∃ run tail, front ++ ['>'] = run ++ '>' :: tail ∧ ∀ c ∈ run, isTextChar c = true := by
  have hrun : ∀ c ∈ front.takeWhile isTextChar, isTextChar c = true :=
    fun c hc => List.mem_takeWhile_imp hc
  have hsplit : front.takeWhile isTextChar ++ front.dropWhile isTextChar = front :=
    List.takeWhile_append_dropWhile
  cases hback : front.dropWhile isTextChar with
  | nil =>
      rw [hback, List.append_nil] at hsplit
      exact Or.inr ⟨_, [], by rw [hsplit], hrun⟩
  | cons c tail =>
      have hstop : isTextChar c = false := by
        have hhead := List.head?_dropWhile_not isTextChar front
        rw [hback] at hhead
        simpa using hhead
      rw [hback] at hsplit
      by_cases hc : c = '<'
      · exact Or.inl ⟨_, tail, hc ▸ hsplit.symm, hrun⟩
      · have hcloser : c = '>' := by simpa [isTextChar, hc] using hstop
        refine Or.inr ⟨_, tail ++ ['>'], ?_, hrun⟩
        rw [hcloser] at hsplit
        exact (congrArg (· ++ ['>']) hsplit.symm).trans (by simp)

/-- The candidates before a `>` do not depend on what follows it. -/
theorem exists_valuesOf_append_closer (name : String) (front : List Char) :
    ∃ found, ∀ rest, valuesOf (scanTextNode name) (front ++ '>' :: rest)
      = found ++ valuesOf (scanTextNode name) ('>' :: rest) := by
  have hlook := looksAhead_scanTextNode name
  match front with
  | [] => exact ⟨[], fun rest => rfl⟩
  | c :: front =>
      -- unless a candidate starts here and ends within the front, nothing is found here
      have hskip (hnone : ∀ rest, scanTextNode name none (c :: (front ++ '>' :: rest)) = none) :
          ∃ found, ∀ rest, valuesOf (scanTextNode name) (c :: front ++ '>' :: rest)
            = found ++ valuesOf (scanTextNode name) ('>' :: rest) := by
        obtain ⟨found, hfound⟩ := exists_valuesOf_append_closer name front
        refine ⟨found, fun rest => ?_⟩
        rw [List.cons_append, hlook.valuesOf_of_eq_none (hnone rest), hfound rest]
      by_cases hc : c = '>'
      · subst hc
        rcases exists_run front with ⟨run, tail, hfront, hrun⟩ | ⟨run, tail, hfront, hrun⟩
        · have hshorter : tail.length < ('>' :: front).length := by
            rw [hfront, List.length_cons, List.length_append, List.length_cons]
            omega
          obtain ⟨found, hfound⟩ := exists_valuesOf_append_closer name tail
          refine ⟨textCandidate name run :: found, fun rest => ?_⟩
          rw [hfront, List.cons_append, List.append_assoc, List.cons_append,
            valuesOf_textNode name hrun, hfound rest]
          rfl
        · refine hskip fun rest => ?_
          have hrest : front ++ '>' :: rest = run ++ '>' :: (tail ++ rest) := by
            rw [← List.singleton_append, ← List.append_assoc, hfront]
            simp
          rw [hrest, scanTextNode_closer hrun]
      · refine hskip fun rest => ?_
        unfold scanTextNode
        split
        · rename_i heq
          exact absurd (List.cons.inj heq).1 hc
        · rfl
termination_by front.length

/-- **A text between two tags is a candidate, and the others do not depend on it.** -/
theorem exists_valuesOf_textNode (name : String) (before after : List Char) :
    ∃ found, ∀ text, (∀ c ∈ text, isTextChar c = true) →
      valuesOf (scanTextNode name) (before ++ '>' :: (text ++ '<' :: after))
        = found ++ textCandidate name text :: valuesOf (scanTextNode name) after := by
  obtain ⟨found, hfound⟩ := exists_valuesOf_append_closer name before
  refine ⟨found, fun text htext => ?_⟩
  rw [hfound, valuesOf_textNode name htext]

/-! ## Findings -/

/-- A finding about text between tags is about a candidate for it that counts as literal. -/
theorem exists_textNode_of_mem_literalFindings {finding : Finding}
    (h : finding ∈ literalFindings exclusions name text) (hbetween : IsBetweenMarkups finding) :
    ∃ candidate ∈ valuesOf (scanTextNode name) text,
      isLiteral exclusions candidate.cleaned = true ∧ candidate.message = finding.message := by
  have hmem : finding ∈ (literalFindings exclusions name text).filter IsBetweenMarkups :=
    List.mem_filter.mpr ⟨h, decide_eq_true hbetween⟩
  rw [filter_isBetweenMarkups] at hmem
  obtain ⟨found, hfound, rfl⟩ := List.mem_map.mp hmem
  obtain ⟨hnode, hliteral⟩ := List.mem_filter.mp hfound
  exact ⟨found.value, List.mem_map_of_mem hnode, hliteral, rfl⟩

/-- A candidate for text between tags that counts as literal is reported. -/
theorem exists_mem_literalFindings_of_textNode {candidate : Candidate}
    (h : candidate ∈ valuesOf (scanTextNode name) text)
    (hliteral : isLiteral exclusions candidate.cleaned = true) :
    ∃ finding ∈ literalFindings exclusions name text, finding.message = candidate.message := by
  obtain ⟨found, hfound, rfl⟩ := List.mem_map.mp h
  have hcandidate : found ∈ candidates name text :=
    List.mem_append_left _ (List.mem_append_right _ hfound)
  exact ⟨_, List.mem_map_of_mem (List.mem_filter.mpr ⟨hcandidate, hliteral⟩), rfl⟩

/-- The text of an element holds no angle bracket if its interpolations hold none. -/
theorem isTextChar_of_mem_elementText {parts : List ElementPart}
    (h : ∀ interpolation, .interpolation interpolation ∈ parts → interpolation.Whole) :
    ∀ c ∈ elementText parts, isTextChar c = true := by
  have hopener : Entity.Stops '<' := ⟨by decide, by decide, by decide, by decide⟩
  have hcloser : Entity.Stops '>' := ⟨by decide, by decide, by decide, by decide⟩
  intro c hc
  obtain ⟨part, hpart, hmem⟩ := List.mem_flatMap.mp hc
  suffices hne : c ≠ '<' ∧ c ≠ '>' by
    rw [isTextChar, Bool.and_eq_true, bne_iff_ne, bne_iff_ne]
    exact hne
  cases part with
  | blank d hd =>
      obtain rfl : c = d := List.mem_singleton.mp hmem
      constructor
      · rintro rfl
        exact absurd hd (by decide)
      · rintro rfl
        exact absurd hd (by decide)
  | entity entity =>
      constructor
      · rintro rfl
        exact Entity.notMem_chars hopener entity hmem
      · rintro rfl
        exact Entity.notMem_chars hcloser entity hmem
  | interpolation interpolation =>
      have hwhole := h interpolation hpart
      have hchars : c = '\x7b' ∨ c ∈ interpolation.body ∨ c = '\x7d' := by
        simpa [ElementPart.chars, Interpolation.chars, closeBraces] using hmem
      constructor
      · rintro rfl
        simp [hwhole.opener_notMem] at hchars
      · rintro rfl
        simp [hwhole.closer_notMem] at hchars

/-- **Interpolations that are whole to the sweep are not reported as text between tags.**  For
    all exclusions, a template in which the text of an element consists of such
    interpolations, white space and entities has no finding about text between tags if it has
    none with nothing in the element. -/
theorem whole_interpolations_are_not_reported (exclusions : SortedSet) (name : String)
    {before after : List Char} {parts : List ElementPart}
    (hwhole : ∀ interpolation, .interpolation interpolation ∈ parts → interpolation.Whole)
    (hfree : ∀ finding ∈ literalFindings exclusions name (before ++ '>' :: '<' :: after),
      ¬ IsBetweenMarkups finding) :
    ∀ finding ∈ literalFindings exclusions name
        (before ++ '>' :: (elementText parts ++ '<' :: after)),
      ¬ IsBetweenMarkups finding := by
  intro finding hfinding hbetween
  obtain ⟨candidate, hcandidate, hliteral, hmessage⟩ :=
    exists_textNode_of_mem_literalFindings hfinding hbetween
  obtain ⟨found, hvalues⟩ := exists_valuesOf_textNode name before after
  have hempty := hvalues [] (fun c hc => nomatch hc)
  rw [hvalues _ (isTextChar_of_mem_elementText hwhole)] at hcandidate
  have hother : candidate ≠ textCandidate name (elementText parts) := by
    rintro rfl
    have hclean : Interpolated (clean (elementText parts)) :=
      (interpolated_removeEntities hwhole).clean
    rw [isLiteral, textCandidate, hclean.hasText_eq_false] at hliteral
    exact absurd hliteral (by simp)
  have hthere : candidate ∈ valuesOf (scanTextNode name) (before ++ '>' :: '<' :: after) := by
    rw [List.nil_append] at hempty
    rw [hempty]
    rcases List.mem_append.mp hcandidate with hbefore | hbehind
    · exact List.mem_append_left _ hbefore
    · rcases List.mem_cons.mp hbehind with hsame | hafter
      · exact absurd hsame hother
      · exact List.mem_append_right _ (List.mem_cons_of_mem _ hafter)
  obtain ⟨other, hmem, hsame⟩ := exists_mem_literalFindings_of_textNode hthere hliteral
  refine hfree other hmem ?_
  rw [IsBetweenMarkups, hsame, hmessage]
  exact hbetween

/-- Three interpolations, two of them side by side, with an entity between two others and one
    within the last. -/
theorem interpolations_with_entities_are_not_reported :
    ¬ ∃ finding ∈ literalFindings .empty "view.html"
        ("<p>\x7b\x7b 'A' | translate \x7d\x7d&nbsp; "
          ++ "\x7b\x7b vm.a \x7d\x7d\x7b\x7b b + '&amp;' \x7d\x7d</p>").toList,
      IsBetweenMarkups finding := by
  let parts : List ElementPart := [
    .interpolation ⟨" 'A' | translate ".toList, by decide +kernel⟩,
    .entity ⟨false, ['n', 'b', 's', 'p'], by decide, List.all_eq_true.mp (by decide)⟩,
    .blank ' ' (by decide),
    .interpolation ⟨" vm.a ".toList, by decide +kernel⟩,
    .interpolation ⟨" b + '&amp;' ".toList, by decide +kernel⟩]
  have hwhole : ∀ interpolation, .interpolation interpolation ∈ parts → interpolation.Whole := by
    intro interpolation hmem
    simp only [parts, List.mem_cons, List.not_mem_nil, reduceCtorEq, false_or, or_false,
      ElementPart.interpolation.injEq] at hmem
    rcases hmem with rfl | rfl | rfl
    · exact ⟨by decide +kernel, by decide +kernel, by decide +kernel⟩
    · exact ⟨by decide +kernel, by decide +kernel, by decide +kernel⟩
    · exact ⟨by decide +kernel, by decide +kernel, by decide +kernel⟩
  have hfree : ∀ finding ∈ literalFindings .empty "view.html"
      ("<p".toList ++ '>' :: '<' :: "/p>".toList), ¬ IsBetweenMarkups finding := by
    have hnone : literalFindings .empty "view.html"
        ("<p".toList ++ '>' :: '<' :: "/p>".toList) = [] := by decide +kernel
    rw [hnone]
    exact fun finding hmem => nomatch hmem
  have htext : ("<p>\x7b\x7b 'A' | translate \x7d\x7d&nbsp; "
        ++ "\x7b\x7b vm.a \x7d\x7d\x7b\x7b b + '&amp;' \x7d\x7d</p>").toList
      = "<p".toList ++ '>' :: (elementText parts ++ '<' :: "/p>".toList) := by decide +kernel
  rw [htext]
  rintro ⟨finding, hmem, hbetween⟩
  exact whole_interpolations_are_not_reported .empty "view.html" hwhole hfree finding hmem hbetween

/-- An angle bracket in an expression cuts an interpolation for the sweep, and an entity
    between two braces of an expression brings them together when it goes.  Either way a piece
    of the interpolation is reported, although nothing is if the element is empty. -/
theorem cut_interpolations_are_reported :
    let comparison := "<p>\x7b\x7b a > b \x7d\x7d</p>".toList
    let braces := "<p>\x7b\x7b \x7ba: '\x7d&amp;\x7d'\x7d \x7d\x7d</p>".toList
    let messages := fun text => (literalFindings .empty "view.html" text).map (·.message)
    messages "<p></p>".toList = []
    ∧ (∃ interpolation : Interpolation,
        '<' :: 'p' :: '>' :: (elementText [.interpolation interpolation] ++ "</p>".toList)
            = comparison
        ∧ messages comparison
          = ["Non-translated text between mark-ups in view.html: \"b \x7d\x7d\""])
    ∧ ∃ interpolation : Interpolation,
        '<' :: 'p' :: '>' :: (elementText [.interpolation interpolation] ++ "</p>".toList)
            = braces
        ∧ messages braces
          = ["Non-translated text between mark-ups in view.html: "
              ++ "\"\x7b\x7b \x7ba: '\x7d\x7d'\x7d \x7d\x7d\""] := by
  intro comparison braces messages
  refine ⟨by decide +kernel, ⟨⟨" a > b ".toList, by decide +kernel⟩, rfl, by decide +kernel⟩,
    ⟨⟨" \x7ba: '\x7d&amp;\x7d'\x7d ".toList, by decide +kernel⟩, rfl, by decide +kernel⟩⟩

end CatalogLint.Template
