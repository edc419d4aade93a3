import CatalogLint.Proofs.Template.Comments
import CatalogLint.Proofs.Text.Places
import Mathlib.Data.Nat.Find

/-! # The layout of comments in a text

    A text is laid out as texts and comments by turns (`LaidOut`).  A comment starts at the
    first `<!--` that a `-->` follows, and it ends with the first `-->` behind its four
    characters; in the text behind the last comment no other one starts.  Each text has one
    layout, and of a comment in it as many line feeds are left as it has.  So a place outside
    the comments keeps its line when what stands before it is stripped of comments
    (`stripped_places_keep_their_lines`). -/

namespace CatalogLint.Template

open Text
open String (utf8Len)

variable {text before comment rest : List Char} {layout : Layout}

/-! ## Comments by their first and last characters -/

/-- A comment starts at the head of a text: `<!--`, and a `-->` behind it. -/
def StartsComment (text : List Char) : Prop :=
  ∃ body rest, text = commentOpen ++ (body ++ (commentClose ++ rest))

/-- A comment as it is written before the rest of a text: it ends with the first `-->` that
    stands at least four characters behind its start. -/
structure IsComment (comment rest : List Char) : Prop where
  marked : ∃ body, comment = commentOpen ++ (body ++ commentClose)
  ends_first : ∀ body' rest', comment ++ rest = commentOpen ++ (body' ++ (commentClose ++ rest')) →
    comment.length ≤ (commentOpen ++ (body' ++ commentClose)).length

/-- No comment starts within a text, whatever stands behind it being taken along. -/
def StartsFirst (before rest : List Char) : Prop :=
  ∀ earlier later, before ++ rest = earlier ++ later → StartsComment later →
    before.length ≤ earlier.length

/-- No comment starts anywhere in a text. -/
def Uncommented (text : List Char) : Prop :=
  ∀ earlier later, text = earlier ++ later → ¬ StartsComment later

/-! ## Layouts -/

/-- Texts and comments by turns. -/
structure Layout where
  /-- The texts before a comment, each with the comment. -/
  parts : List (List Char × List Char)
  /-- The text behind the last comment. -/
  last : List Char

namespace Layout

/-- Texts, each with what stands for the comment behind it. -/
def join (write : List Char → List Char) (parts : List (List Char × List Char)) : List Char :=
  parts.flatMap fun part => part.1 ++ write part.2

/-- A layout with something written for each comment. -/
def written (write : List Char → List Char) (layout : Layout) : List Char :=
  join write layout.parts ++ layout.last

/-- The texts of a layout. -/
def texts (layout : Layout) : List (List Char) :=
  layout.parts.map Prod.fst ++ [layout.last]

/-- What is written before one of the texts. -/
def ahead (write : List Char → List Char) (layout : Layout) (index : Nat) : List Char :=
  join write (layout.parts.take index)

/-- What is written for parts is written from the first one on. -/
theorem join_cons (write : List Char → List Char) (part : List Char × List Char)
    (parts : List (List Char × List Char)) :
    join write (part :: parts) = part.1 ++ (write part.2 ++ join write parts) :=
  List.flatMap_cons.trans (List.append_assoc ..)

/-- A layout is written from its first comment on. -/
theorem written_cons (write : List Char → List Char) (before comment : List Char)
    (layout : Layout) :
    written write ⟨(before, comment) :: layout.parts, layout.last⟩
      = before ++ (write comment ++ layout.written write) := by
  rw [written, join_cons, written]
  simp only [List.append_assoc]

end Layout

/-- A text has a layout. -/
inductive LaidOut : List Char → Layout → Prop where
  | last {text : List Char} (huncommented : Uncommented text) : LaidOut text ⟨[], text⟩
  | comment {before comment rest : List Char} {layout : Layout}
      (hfirst : StartsFirst before (comment ++ rest)) (hcomment : IsComment comment rest)
      (hrest : LaidOut rest layout) :
      LaidOut (before ++ (comment ++ rest)) ⟨(before, comment) :: layout.parts, layout.last⟩

/-- The line feeds of a text, and nothing else. -/
def feedsOf (text : List Char) : List Char :=
  List.replicate (lineFeeds text) '\n'

/-! ## Every text has a layout, and only one -/

/-- Of all ways to split there is one with the shortest text in front. -/
theorem exists_shortest {Splits : List Char → List Char → Prop}
    (h : ∃ front back, Splits front back) :
    ∃ front back, Splits front back
      ∧ ∀ front' back', Splits front' back' → front.length ≤ front'.length := by
  classical
  have hlength : ∃ n front back, Splits front back ∧ front.length = n := by
    obtain ⟨front, back, hsplit⟩ := h
    exact ⟨front.length, front, back, hsplit, rfl⟩
  obtain ⟨front, back, hsplit, hfront⟩ := Nat.find_spec hlength
  refine ⟨front, back, hsplit, fun front' back' hsplit' => ?_⟩
  rw [hfront]
  exact Nat.find_min' hlength ⟨front', back', hsplit', rfl⟩

/-- A comment that is written starts a comment. -/
theorem IsComment.startsComment (h : IsComment comment rest) : StartsComment (comment ++ rest) := by
  obtain ⟨body, rfl⟩ := h.marked
  exact ⟨body, rest, by simp only [List.append_assoc]⟩

/-- Where a comment starts, a comment is written. -/
theorem StartsComment.exists_isComment (h : StartsComment text) :
    ∃ comment rest, text = comment ++ rest ∧ IsComment comment rest := by
  obtain ⟨body, rest, htext, hshortest⟩ := exists_shortest h
  refine ⟨commentOpen ++ (body ++ commentClose), rest, ?_, ⟨body, rfl⟩, ?_⟩
  · rw [htext]
    simp only [List.append_assoc]
  · intro body' rest' heq
    have hbody := hshortest body' rest' (by rw [htext, ← heq]; simp only [List.append_assoc])
    simp only [List.length_append]
    omega

/-- A comment is not empty. -/
theorem IsComment.length_pos (h : IsComment comment rest) : 0 < comment.length := by
  obtain ⟨body, rfl⟩ := h.marked
  simp only [commentOpen, List.length_append, List.length_cons]
  omega

/-- Every text has a layout. -/
theorem exists_laidOut (text : List Char) : ∃ layout, LaidOut text layout := by
  by_cases hcomment : ∃ earlier later, text = earlier ++ later ∧ StartsComment later
  · obtain ⟨before, later, ⟨htext, hstarts⟩, hshortest⟩ := exists_shortest hcomment
    obtain ⟨comment, rest, hlater, hwritten⟩ := hstarts.exists_isComment
    have hshorter : rest.length < text.length := by
      have hpositive := hwritten.length_pos
      rw [htext, hlater, List.length_append, List.length_append]
      omega
    obtain ⟨layout, hlayout⟩ := exists_laidOut rest
    rw [htext, hlater] at hshortest ⊢
    refine ⟨_, .comment ?_ hwritten hlayout⟩
    exact fun earlier later heq hlater => hshortest earlier later ⟨heq, hlater⟩
  · refine ⟨_, .last fun earlier later heq hlater => ?_⟩
    exact hcomment ⟨earlier, later, heq, hlater⟩
termination_by text.length

/-- The end of a comment is told by the text that it starts. -/
theorem IsComment.length_le {comment' rest' : List Char} (h : IsComment comment rest)
    (h' : IsComment comment' rest') (heq : comment ++ rest = comment' ++ rest') :
    comment.length ≤ comment'.length := by
  obtain ⟨body', rfl⟩ := h'.marked
  exact h.ends_first body' rest' (by rw [heq]; simp only [List.append_assoc])

/-- **A text has no other layout.** -/
theorem LaidOut.unique {other : Layout} (h : LaidOut text layout) (hother : LaidOut text other) :
    other = layout := by
  induction h generalizing other with
  | last huncommented =>
      cases hother with
      | last => rfl
      | @comment before comment rest _ hfirst hcomment hrest =>
          exact absurd hcomment.startsComment (huncommented before _ rfl)
  | @comment before comment rest layout hfirst hcomment hrest ih =>
      generalize htext : before ++ (comment ++ rest) = text at hother
      cases hother with
      | last huncommented =>
          exact absurd hcomment.startsComment (huncommented before _ htext.symm)
      | @comment before' comment' rest' layout' hfirst' hcomment' hrest' =>
          have hbefore : before.length = before'.length :=
            Nat.le_antisymm (hfirst _ _ htext hcomment'.startsComment)
              (hfirst' _ _ htext.symm hcomment.startsComment)
          obtain ⟨rfl, hinside⟩ := List.append_inj htext hbefore
          have hlength : comment.length = comment'.length :=
            Nat.le_antisymm (hcomment.length_le hcomment' hinside)
              (hcomment'.length_le hcomment hinside.symm)
          obtain ⟨rfl, rfl⟩ := List.append_inj hinside hlength
          rw [ih hrest']

/-! ## What is left of a layout -/

/-- A text is what its layout writes with its comments. -/
theorem LaidOut.written_eq (h : LaidOut text layout) : layout.written id = text := by
  induction h with
  | last => rfl
  | @comment before comment rest layout hfirst hcomment hrest ih =>
      rw [Layout.written_cons, ih, id_eq]

/-- Where a comment starts, one is found. -/
theorem startsComment_of_scanComment {previous : Option Char} {hit : Hit (List Char)}
    (h : scanComment previous text = some hit) : StartsComment text := by
  obtain ⟨body, rest, htext, -⟩ := of_scanComment_eq_some h
  exact ⟨body, rest, htext⟩

/-- The text before the first comment stays. -/
theorem StartsFirst.stripComments (h : StartsFirst before rest) :
    stripComments (before ++ rest) = before ++ stripComments rest := by
  induction before with
  | nil => rfl
  | cons c before ih =>
      have hnone : scanComment none (c :: (before ++ rest)) = none := by
        refine Option.eq_none_iff_forall_ne_some.mpr fun hit hhit => ?_
        exact absurd (h [] _ rfl (startsComment_of_scanComment hhit)) (by simp)
      rw [List.cons_append, Template.stripComments,
        looksAhead_scanComment.substitute_of_eq_none hnone, ← Template.stripComments, ih]
      · rfl
      · intro earlier later heq hlater
        have hle := h (c :: earlier) later (by rw [List.cons_append, heq]; rfl) hlater
        exact Nat.le_of_succ_le_succ hle

/-- A text without a comment stays as it is. -/
theorem Uncommented.stripComments (h : Uncommented text) : stripComments text = text := by
  have hfirst : StartsFirst text [] :=
    fun earlier later heq hlater => absurd hlater (h earlier later (by rw [← heq, List.append_nil]))
  have hstrip := hfirst.stripComments
  rw [List.append_nil] at hstrip
  rw [hstrip]
  exact List.append_nil text

/-- The body of a comment does not hold the mark of an end. -/
theorem IsComment.close_notInfix {body : List Char}
    (h : IsComment (commentOpen ++ (body ++ commentClose)) rest) : ¬ commentClose <:+: body := by
  rintro ⟨front, back, rfl⟩
  have hle := h.ends_first front (back ++ (commentClose ++ rest)) (by simp only [List.append_assoc])
  simp only [List.length_append, commentClose, List.length_cons] at hle
  omega

/-- The line feeds of a comment are those between its marks. -/
theorem lineFeeds_marked (body : List Char) :
    lineFeeds (commentOpen ++ (body ++ commentClose)) = lineFeeds body := by
  rw [lineFeeds_append, lineFeeds_append, show lineFeeds commentOpen = 0 from rfl,
    show lineFeeds commentClose = 0 from rfl, Nat.zero_add]
  rfl

/-- **Of a text its layout is left, with the line feeds of each comment.** -/
theorem LaidOut.stripComments_eq (h : LaidOut text layout) :
    stripComments text = layout.written feedsOf := by
  induction h with
  | last huncommented => exact huncommented.stripComments
  | @comment before comment rest layout hfirst hcomment hrest ih =>
      obtain ⟨body, rfl⟩ := hcomment.marked
      have hbody := stripComments_comment hcomment.close_notInfix rest
      rw [hfirst.stripComments]
      simp only [List.append_assoc] at hbody ⊢
      rw [hbody, ih, Layout.written_cons, feedsOf, lineFeeds_marked]

/-! ## Places -/

/-- The line feeds of a text are as many as it has. -/
theorem lineFeeds_feedsOf (text : List Char) : lineFeeds (feedsOf text) = lineFeeds text :=
  List.count_replicate_self ..

/-- The line feeds before a text of a layout do not change with its comments. -/
theorem Layout.lineFeeds_ahead (layout : Layout) (index : Nat) :
    lineFeeds (layout.ahead feedsOf index) = lineFeeds (layout.ahead id index) := by
  rw [ahead, ahead]
  induction layout.parts.take index with
  | nil => rfl
  | cons part parts ih =>
      simp only [join_cons, lineFeeds_append, lineFeeds_feedsOf, ih, id_eq]

/-- A text of a layout is written where it is. -/
theorem Layout.written_eq_ahead {index : Nat} (h : layout.texts[index]? = some text)
    (write : List Char → List Char) :
    ∃ behind, layout.written write = layout.ahead write index ++ (text ++ behind) := by
  obtain ⟨parts, last⟩ := layout
  rw [texts] at h
  simp only [written, ahead]
  induction parts generalizing index with
  | nil =>
      cases index with
      | zero =>
          obtain rfl : last = text := Option.some.inj h
          exact ⟨[], by rw [List.append_nil]; rfl⟩
      | succ index => exact nomatch h
  | cons part parts ih =>
      cases index with
      | zero =>
          obtain rfl : part.1 = text := Option.some.inj h
          refine ⟨write part.2 ++ (join write parts ++ last), ?_⟩
          rw [join_cons]
          simp only [List.append_assoc]
          rfl
      | succ index =>
          obtain ⟨behind, hbehind⟩ := ih h
          refine ⟨behind, ?_⟩
          rw [List.take_succ_cons, join_cons, join_cons]
          simp only [List.append_assoc]
          rw [hbehind]

/-- A place in a text of a layout lies on the line that it has in the text. -/
theorem Layout.lineOf_written {index offset : Nat} (h : layout.texts[index]? = some text)
    (hoffset : offset ≤ utf8Len text) (write : List Char → List Char) :
    lineOf (layout.written write) (utf8Len (layout.ahead write index) + offset)
      = lineFeeds (layout.ahead write index) + lineOf text offset := by
  obtain ⟨behind, hwritten⟩ := Layout.written_eq_ahead h write
  rw [hwritten, lineOf_append, lineOf_append_of_le hoffset]

/-- **Stripping comments keeps the lines of what is left.**  Each text is laid out as texts
    and comments by turns in one way.  What is left of it are the texts of its layout, and
    between them the line feeds of the comments.  A place in one of them has the line in what
    is left that it has in the text, and on that line is whatever a sweep over what is left
    finds at the place. -/
theorem stripped_places_keep_their_lines (content : List Char) :
    ∃ layout, LaidOut content layout ∧ (∀ other, LaidOut content other → other = layout)
      ∧ content = layout.written id ∧ stripComments content = layout.written feedsOf
      ∧ (∀ (index : Nat) (text : List Char), layout.texts[index]? = some text →
          ∀ offset ≤ utf8Len text,
            lineOf (stripComments content) (utf8Len (layout.ahead feedsOf index) + offset)
              = lineOf content (utf8Len (layout.ahead id index) + offset))
      ∧ ∀ (α : Type) (scan : Scanner α), ∀ found ∈ sweep scan (stripComments content),
          ∃ source ∈ matchesOf scan (stripComments content),
            found = ⟨source.hit.value, lineOf (stripComments content) source.place⟩
            ∧ ∀ (index : Nat) (text : List Char), layout.texts[index]? = some text →
                ∀ offset ≤ utf8Len text,
                  source.place = utf8Len (layout.ahead feedsOf index) + offset →
                    found.line = lineOf content (utf8Len (layout.ahead id index) + offset) := by
  obtain ⟨layout, hlayout⟩ := exists_laidOut content
  have hlines : ∀ (index : Nat) (text : List Char), layout.texts[index]? = some text →
      ∀ offset ≤ utf8Len text,
        lineOf (stripComments content) (utf8Len (layout.ahead feedsOf index) + offset)
          = lineOf content (utf8Len (layout.ahead id index) + offset) := by
    intro index text htext offset hoffset
    calc lineOf (stripComments content) (utf8Len (layout.ahead feedsOf index) + offset)
        = lineFeeds (layout.ahead feedsOf index) + lineOf text offset := by
          rw [hlayout.stripComments_eq, Layout.lineOf_written htext hoffset]
      _ = lineFeeds (layout.ahead id index) + lineOf text offset := by
          rw [Layout.lineFeeds_ahead]
      _ = lineOf content (utf8Len (layout.ahead id index) + offset) := by
          rw [← Layout.lineOf_written htext hoffset, hlayout.written_eq]
  refine ⟨layout, hlayout, fun other hother => hlayout.unique hother, hlayout.written_eq.symm,
    hlayout.stripComments_eq, hlines, ?_⟩
  intro α scan found hfound
  rw [sweep_eq_map_lineOf] at hfound
  obtain ⟨source, hsource, rfl⟩ := List.mem_map.mp hfound
  refine ⟨source, hsource, rfl, ?_⟩
  intro index text htext offset hoffset hplace
  show lineOf (stripComments content) source.place = _
  rw [hplace]
  exact hlines index text htext offset hoffset

end CatalogLint.Template
