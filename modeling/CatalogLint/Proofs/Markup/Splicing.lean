import CatalogLint.Proofs.Markup.Balance
import CatalogLint.Proofs.Text.Places
import Mathlib.Data.List.Count
import Mathlib.Data.List.TakeWhile

/-! # Values that are spliced

    Every round of pairing takes tags out of a value and joins the text on both sides of them.
    So a bracket that has been opened and not closed before a tag may become the start of a
    tag once that tag is gone, and the value is reported for a tag that it never held
    (`spliced_tags_are_reported`).

    This cannot happen in a value whose brackets stand apart (`BracketsApart`): every opening
    bracket is closed before the next one is opened, or white space stands behind it.

    * What a scanner of tags finds at such a bracket does not depend on what follows
      (`ReadsBrackets`), so it finds in a text what it finds in its parts
      (`ReadsBrackets.valuesOf_append`).
    * A round takes out the first opening tag, and at most one closing tag with it, and the
      brackets of what is left stand apart (`BracketsApart.step`).
    * So by induction the rounds report nothing but opening tags of the value, and the closing
      tags that are left are closing tags of the value (`BracketsApart.rounds_sublist`). -/

namespace CatalogLint.Markup

open Unicode Text

variable {α : Type} {scan : Scanner α} {text front rest last inner name : List Char}

/-! ## Brackets that stand apart -/

/-- A text without angle brackets. -/
def Bracketless (text : List Char) : Prop :=
  '<' ∉ text ∧ '>' ∉ text

instance : Decidable (Bracketless text) :=
  inferInstanceAs (Decidable ('<' ∉ text ∧ '>' ∉ text))

/-- A text in which it is settled for every opening bracket what it begins: white space stands
    behind it, or it is closed before the next one is opened. -/
inductive Settled : List Char → Prop where
  | nil : Settled []
  | char {c : Char} {rest : List Char} (hc : c ≠ '<') (hrest : Settled rest) :
      Settled (c :: rest)
  | stray {c : Char} {rest : List Char} (hc : isBlank c = true) (hrest : Settled rest) :
      Settled ('<' :: c :: rest)
  | closed {inner rest : List Char} (hinner : Bracketless inner) (hrest : Settled rest) :
      Settled ('<' :: (inner ++ '>' :: rest))

/-- The end of a text behind its last bracket that is settled: nothing, or a bracket that is
    not closed any more. -/
def OpenEnd (last : List Char) : Prop :=
  last = [] ∨ ∃ inner, Bracketless inner ∧ last = '<' :: inner

/-- The opening brackets of a text stand apart: each one but the last is closed before the next
    one is opened, or white space stands behind it. -/
def BracketsApart (text : List Char) : Prop :=
  ∃ front last, Settled front ∧ OpenEnd last ∧ text = front ++ last

/-- Settled texts are settled one after the other. -/
theorem Settled.append (hfront : Settled front) (hrest : Settled rest) :
    Settled (front ++ rest) := by
  induction hfront with
  | nil => exact hrest
  | char hc _ ih => exact .char hc ih
  | stray hc _ ih => exact .stray hc ih
  | @closed inner tail hinner _ ih =>
      rw [List.cons_append, List.append_assoc, List.cons_append]
      exact .closed hinner ih

/-- No bracket is closed in the end of a text. -/
theorem OpenEnd.closer_notMem (h : OpenEnd last) : '>' ∉ last := by
  rcases h with rfl | ⟨inner, hinner, rfl⟩
  · exact List.not_mem_nil
  · exact List.not_mem_cons_of_ne_of_not_mem (by decide) hinner.2

/-! ## Scanners at brackets -/

/-- A scanner reads brackets: it finds nothing off an opening bracket, behind which no white
    space may stand, and what it finds at a bracket that is closed lies between the two. -/
structure ReadsBrackets (scan : Scanner α) : Prop where
  looksAhead : LooksAhead scan
  off_bracket : ∀ c rest, c ≠ '<' → scan none (c :: rest) = none
  at_blank : ∀ c rest, isBlank c = true → scan none ('<' :: c :: rest) = none
  at_closed : ∀ inner, Bracketless inner → ∃ found? : Option α, ∀ rest,
    scan none ('<' :: (inner ++ '>' :: rest))
      = found?.map fun value => { value, more := inner.length + 1 }
  at_end : ∀ inner, Bracketless inner → scan none ('<' :: inner) = none

/-- A run of characters that pass a test ends at the first one that does not, whatever
    follows. -/
theorem takeWhile_append_stop_eq {passes : Char → Bool} {stop : Char} (hstop : passes stop = false)
    (text rest : List Char) : (text ++ stop :: rest).takeWhile passes = text.takeWhile passes := by
  induction text with
  | nil => simp [hstop]
  | cons c text ih =>
      rw [List.cons_append, List.takeWhile_cons, List.takeWhile_cons, ih]

/-- A text in which no bracket is closed goes on to its end. -/
theorem takeWhile_of_closer_notMem (h : '>' ∉ text) : text.takeWhile (· != '>') = text := by
  refine List.takeWhile_eq_self_iff.mpr fun c hc => ?_
  rw [bne_iff_ne]
  rintro rfl
  exact h hc

/-- What is found of an opening tag at a bracket that is closed does not depend on what follows,
    and its name is part of what stands between the brackets. -/
theorem exists_scanOpening_closed (hinner : Bracketless inner) :
    ∃ found? : Option Opening, (∀ opening ∈ found?, opening.name ⊆ inner) ∧ ∀ rest,
      scanOpening none ('<' :: (inner ++ '>' :: rest))
        = found?.map fun value => { value, more := inner.length + 1 } := by
  have hrun := @takeWhile_append_stop_eq isNameChar '>' (by decide) inner
  have hname : inner.takeWhile isNameChar ⊆ inner := (List.takeWhile_prefix _).subset
  have hinside : inner.takeWhile isNameChar ++ inner.drop (inner.takeWhile isNameChar).length
      = inner := List.prefix_iff_eq_append.mp (List.takeWhile_prefix _)
  have hdrop : ∀ rest, (inner ++ '>' :: rest).drop (inner.takeWhile isNameChar).length
      = inner.drop (inner.takeWhile isNameChar).length ++ '>' :: rest :=
    fun rest => List.drop_append_of_le_length (List.takeWhile_prefix _).length_le
  generalize inner.takeWhile isNameChar = name at hrun hname hinside hdrop
  by_cases hempty : name.isEmpty = true
  · refine ⟨none, nofun, fun rest => ?_⟩
    rw [scanOpening, hrun]
    simp only [hempty, if_true, Option.map_none]
  · cases hbehind : inner.drop name.length with
    | nil =>
        refine ⟨some ⟨name, false⟩, by rintro _ ⟨⟩; exact hname, fun rest => ?_⟩
        have hlength : inner.length = name.length := by
          rw [← hinside, hbehind, List.append_nil]
        rw [scanOpening, hrun]
        simp only [hdrop, hbehind, if_neg hempty, List.nil_append, hlength, Option.map_some]
    | cons c tail =>
        have hmem : ∀ d ∈ c :: tail, d ∈ inner := fun d hd => List.mem_of_mem_drop (hbehind ▸ hd)
        have hc : c ≠ '>' := fun h => hinner.2 (h ▸ hmem c List.mem_cons_self)
        have htail : '>' ∉ tail := fun h => hinner.2 (hmem _ (List.mem_cons_of_mem c h))
        have hlength : inner.length + 1 = name.length + tail.length + 2 := by
          rw [← hinside, hbehind, List.length_append, List.length_cons]
          omega
        by_cases hblank : isBlank c = true
        · refine ⟨some ⟨name, (c :: tail).getLast? == some '/'⟩, by rintro _ ⟨⟩; exact hname,
            fun rest => ?_⟩
          rw [scanOpening, hrun]
          simp only [hdrop, hbehind, if_neg hempty, List.cons_append, hblank, if_true,
            takeWhile_append_stop htail, List.drop_left, hlength, Option.map_some]
        · refine ⟨none, nofun, fun rest => ?_⟩
          rw [scanOpening, hrun]
          simp only [hdrop, hbehind, if_neg hempty, List.cons_append, if_neg hblank,
            Option.map_none]

/-- The scanner of opening tags reads brackets. -/
theorem readsBrackets_scanOpening : ReadsBrackets scanOpening where
  looksAhead := by
    intro before text
    unfold scanOpening
    split <;> rfl
  off_bracket := readsTags_scanOpening.off_bracket none
  at_blank := by
    intro c rest hc
    have hname : isNameChar c = false := by rw [isNameChar, hc, Bool.not_true, Bool.and_false]
    simp [scanOpening, hname]
  at_closed := by
    intro inner hinner
    obtain ⟨found?, -, hfound⟩ := exists_scanOpening_closed hinner
    exact ⟨found?, hfound⟩
  at_end := by
    intro inner hinner
    have hcloser : '>' ∉ inner.drop (inner.takeWhile isNameChar).length :=
      fun h => hinner.2 (List.mem_of_mem_drop h)
    rw [scanOpening]
    generalize inner.drop (inner.takeWhile isNameChar).length = tail at hcloser
    split
    · rfl
    · split
      · exact absurd List.mem_cons_self hcloser
      · rename_i c behind _
        have hbehind : '>' ∉ behind := fun h => hcloser (List.mem_cons_of_mem c h)
        simp only [takeWhile_of_closer_notMem hbehind, List.drop_length, ite_self]
      · rfl

/-- The scanner of closing tags reads brackets. -/
theorem readsBrackets_scanClosing : ReadsBrackets scanClosing where
  looksAhead := by
    intro before text
    unfold scanClosing
    split <;> rfl
  off_bracket := readsTags_scanClosing.off_bracket none
  at_blank := by
    intro c rest hc
    refine scanClosing.eq_2 none _ (fun tail h => ?_)
    obtain rfl : c = '/' := (List.cons.inj (List.cons.inj h).2).1
    exact absurd hc (by decide)
  at_closed := by
    intro inner hinner
    by_cases hslash : inner.head? = some '/'
    · obtain ⟨name, rfl⟩ := List.head?_eq_some_iff.mp hslash
      have hname : '>' ∉ name := fun h => hinner.2 (List.mem_cons_of_mem '/' h)
      refine ⟨if name.isEmpty then none else some name, fun rest => ?_⟩
      rw [List.cons_append, scanClosing, takeWhile_append_stop hname]
      simp only [List.drop_left]
      split
      · rfl
      · rfl
    · refine ⟨none, fun rest => scanClosing.eq_2 none _ (fun tail h => ?_)⟩
      cases inner with
      | nil => exact absurd (List.cons.inj (List.cons.inj h).2).1 (by decide)
      | cons c inner => exact hslash (congrArg some (List.cons.inj (List.cons.inj h).2).1)
  at_end := by
    intro inner hinner
    unfold scanClosing
    split
    · rename_i name heq
      have hname : '>' ∉ name := by
        intro h
        rw [(List.cons.inj heq).2] at hinner
        exact hinner.2 (List.mem_cons_of_mem '/' h)
      simp only [takeWhile_of_closer_notMem hname, List.drop_length, ite_self]
    · rfl

namespace ReadsBrackets

/-- Nothing is found in a stretch of text in which no bracket is opened. -/
theorem valuesOf_plain (h : ReadsBrackets scan) {stretch : List Char} (hstretch : '<' ∉ stretch)
    (rest : List Char) : valuesOf scan (stretch ++ rest) = valuesOf scan rest := by
  induction stretch with
  | nil => rfl
  | cons c stretch ih =>
      have hc : c ≠ '<' := fun heq => hstretch (heq ▸ List.mem_cons_self)
      rw [List.cons_append, h.looksAhead.valuesOf_of_eq_none (h.off_bracket c _ hc)]
      exact ih fun hmem => hstretch (List.mem_cons_of_mem c hmem)

/-- What is found at a bracket that is closed comes before what is found behind it. -/
theorem exists_valuesOf_closed (h : ReadsBrackets scan) (hinner : Bracketless inner) :
    ∃ found, ∀ rest,
      valuesOf scan ('<' :: (inner ++ '>' :: rest)) = found ++ valuesOf scan rest := by
  have hwritten : ∀ rest, '<' :: (inner ++ '>' :: rest) = ('<' :: (inner ++ ['>'])) ++ rest := by
    intro rest
    simp only [List.cons_append, List.append_assoc, List.nil_append]
  obtain ⟨found?, hfound⟩ := h.at_closed inner hinner
  refine ⟨found?.toList, fun rest => ?_⟩
  have hscan := hfound rest
  cases found? with
  | none =>
      have hplain : '<' ∉ inner ++ ['>'] := List.not_mem_append hinner.1 (by decide)
      rw [h.looksAhead.valuesOf_of_eq_none hscan, ← List.singleton_append, ← List.append_assoc,
        h.valuesOf_plain hplain]
      rfl
  | some value =>
      rw [hwritten] at hscan ⊢
      refine h.looksAhead.valuesOf_of_eq_some hscan ?_
      simp only [List.length_cons, List.length_append, List.length_nil]

/-- **What is found in a settled text does not depend on what follows it.** -/
theorem valuesOf_append (h : ReadsBrackets scan) (hfront : Settled front) (rest : List Char) :
    valuesOf scan (front ++ rest) = valuesOf scan front ++ valuesOf scan rest := by
  have hskip : ∀ {c : Char} {tail : List Char}, scan none (c :: tail) = none →
      valuesOf scan (c :: tail) = valuesOf scan tail := h.looksAhead.valuesOf_of_eq_none
  induction hfront with
  | nil => rfl
  | @char c tail hc _ ih =>
      rw [List.cons_append, hskip (h.off_bracket c _ hc), hskip (h.off_bracket c _ hc), ih]
  | @stray c tail hc _ ih =>
      have hne : c ≠ '<' := by
        rintro rfl
        exact absurd hc (by decide)
      rw [List.cons_append, List.cons_append, hskip (h.at_blank c _ hc),
        hskip (h.off_bracket c _ hne), hskip (h.at_blank c _ hc), hskip (h.off_bracket c _ hne), ih]
  | @closed inner tail hinner _ ih =>
      obtain ⟨found, hfound⟩ := h.exists_valuesOf_closed hinner
      rw [List.cons_append, List.append_assoc, List.cons_append, hfound, hfound, ih,
        List.append_assoc]

/-- Nothing is found in the end of a text. -/
theorem valuesOf_openEnd (h : ReadsBrackets scan) (hlast : OpenEnd last) :
    valuesOf scan last = [] := by
  rcases hlast with rfl | ⟨inner, hinner, rfl⟩
  · rfl
  · rw [h.looksAhead.valuesOf_of_eq_none (h.at_end inner hinner), ← List.append_nil inner,
      h.valuesOf_plain hinner.1]
    rfl

end ReadsBrackets

/-! ## The first opening tag -/

/-- A stretch of text is passed over in search of the first opening tag. -/
def Passed (stretch : List Char) : Prop :=
  ∀ rest, firstOpening 0 (stretch ++ rest) = (firstOpening 0 rest).map (behind stretch)

/-- What stands between two brackets makes an opening tag of a name. -/
def Opens (inner name : List Char) : Prop :=
  ∀ rest, firstOpening 0 ('<' :: (inner ++ '>' :: rest)) = some ([], name, rest)

/-- Stretches of text are passed over one after the other. -/
theorem Passed.append {second : List Char} (hfront : Passed front) (hsecond : Passed second) :
    Passed (front ++ second) := by
  intro rest
  rw [List.append_assoc, hfront, hsecond, map_behind_append]

/-- A character is passed over where the scanner finds nothing. -/
theorem passed_singleton {c : Char} (h : ∀ rest, scanOpening none (c :: rest) = none) :
    Passed [c] :=
  fun rest => firstOpening_of_eq_none (h rest)

/-- What stands between two brackets makes an opening tag, or it is passed over. -/
theorem passed_or_opens (hinner : Bracketless inner) :
    Passed ('<' :: (inner ++ ['>'])) ∨ ∃ name, Bracketless name ∧ Opens inner name := by
  have hplain : '<' ∉ inner ++ ['>'] := List.not_mem_append hinner.1 (by decide)
  have hwritten : ∀ rest, inner ++ ['>'] ++ rest = inner ++ '>' :: rest :=
    fun rest => List.append_assoc inner ['>'] rest
  obtain ⟨found?, hname, hfound⟩ := exists_scanOpening_closed hinner
  cases found? with
  | none =>
      refine Or.inl fun rest => ?_
      rw [List.cons_append, firstOpening_of_eq_none (by rw [hwritten, hfound]; rfl),
        firstOpening_plain hplain, map_behind_append]
      rfl
  | some opening =>
      cases hself : opening.selfClosing with
      | true =>
          refine Or.inl fun rest => ?_
          have hpass := firstOpening_pass (inner ++ ['>']) rest
          rw [List.length_append] at hpass
          rw [List.cons_append, firstOpening, hwritten, hfound]
          show (if opening.selfClosing = true then
            (firstOpening (inner.length + 1) (inner ++ '>' :: rest)).map (behind ['<']) else _) = _
          rw [if_pos hself, ← hwritten]
          exact (congrArg (Option.map (behind ['<'])) hpass).trans (map_behind_append ['<'] _ _)
      | false =>
          refine Or.inr ⟨opening.name, ?_, fun rest => ?_⟩
          · have hsubset := hname opening rfl
            exact ⟨fun h => hinner.1 (hsubset h), fun h => hinner.2 (hsubset h)⟩
          · have hdrop : (inner ++ '>' :: rest).drop (inner.length + 1) = rest := by
              rw [← hwritten]
              exact List.drop_left' List.length_append
            rw [firstOpening, hfound]
            show (if opening.selfClosing = true then _
              else some ([], opening.name, (inner ++ '>' :: rest).drop (inner.length + 1))) = _
            rw [hself, hdrop]
            rfl

/-- The first opening tag of a settled text, if it has one, with settled texts on both sides. -/
structure SplitsAt (front before inner name after : List Char) : Prop where
  front_eq : front = before ++ '<' :: (inner ++ '>' :: after)
  settled_before : Settled before
  passed_before : Passed before
  bracketless_inner : Bracketless inner
  bracketless_name : Bracketless name
  opens : Opens inner name
  settled_after : Settled after

/-- A stretch that is passed over stands before the first opening tag. -/
theorem SplitsAt.behind {stretch before after : List Char}
    (h : SplitsAt front before inner name after) (hsettled : Settled stretch)
    (hpassed : Passed stretch) :
    SplitsAt (stretch ++ front) (stretch ++ before) inner name after where
  front_eq := by rw [h.front_eq, List.append_assoc]
  settled_before := hsettled.append h.settled_before
  passed_before := hpassed.append h.passed_before
  bracketless_inner := h.bracketless_inner
  bracketless_name := h.bracketless_name
  opens := h.opens
  settled_after := h.settled_after

/-- A settled text is passed over, or it splits at its first opening tag. -/
theorem Settled.passed_or_splitsAt (h : Settled front) :
    Passed front ∨ ∃ before inner name after, SplitsAt front before inner name after := by
  have hstep : ∀ {stretch front : List Char}, Settled stretch → Passed stretch →
      (Passed front ∨ ∃ before inner name after, SplitsAt front before inner name after) →
      Passed (stretch ++ front)
        ∨ ∃ before inner name after, SplitsAt (stretch ++ front) before inner name after := by
    rintro stretch front hsettled hpassed (hrest | ⟨before, inner, name, after, hsplit⟩)
    · exact Or.inl (hpassed.append hrest)
    · exact Or.inr ⟨stretch ++ before, inner, name, after, hsplit.behind hsettled hpassed⟩
  induction h with
  | nil => exact Or.inl fun rest => (map_behind_nil _).symm
  | @char c rest hc _ ih =>
      have hpassed : Passed [c] :=
        passed_singleton fun tail => readsBrackets_scanOpening.off_bracket c tail hc
      exact hstep (.char hc .nil) hpassed ih
  | @stray c rest hc _ ih =>
      have hne : c ≠ '<' := by
        rintro rfl
        exact absurd hc (by decide)
      have hpassed : Passed ['<', c] := by
        intro tail
        show firstOpening 0 ('<' :: c :: tail) = _
        rw [firstOpening_of_eq_none (readsBrackets_scanOpening.at_blank c tail hc),
          firstOpening_of_eq_none (readsBrackets_scanOpening.off_bracket c tail hne),
          map_behind_append]
        rfl
      exact hstep (.stray hc .nil) hpassed ih
  | @closed inner rest hinner hrest ih =>
      rcases passed_or_opens hinner with hpassed | ⟨name, hname, hopens⟩
      · have hwritten : '<' :: (inner ++ '>' :: rest) = ('<' :: (inner ++ ['>'])) ++ rest := by
          simp only [List.cons_append, List.append_assoc, List.nil_append]
        rw [hwritten]
        exact hstep (.closed hinner .nil) hpassed ih
      · exact Or.inr ⟨[], inner, name, rest, rfl, .nil, fun rest => (map_behind_nil _).symm, hinner,
          hname, hopens, hrest⟩

/-! ## The closing tag of a name -/

/-- A closing tag in a text whose brackets stand apart stands in the settled part of it, with
    settled texts on both sides. -/
theorem Settled.exists_of_closingTag {inside outer : List Char} (h : Settled front)
    (hlast : OpenEnd last) (hname : Bracketless name)
    (heq : front ++ last = inside ++ (closingTag name ++ outer)) :
    ∃ tail, outer = tail ++ last ∧ Settled inside ∧ Settled tail := by
  have hmark : ∀ rest, closingTag name ++ rest = '<' :: '/' :: (name ++ '>' :: rest) := by
    intro rest
    simp only [closingTag, List.append_assoc, List.cons_append, List.nil_append]
  rw [hmark] at heq
  induction h generalizing inside with
  | nil =>
      have hmem : '>' ∈ last := by
        rw [List.nil_append] at heq
        simp [heq]
      exact absurd hmem hlast.closer_notMem
  | @char c rest hc hrest ih =>
      cases inside with
      | nil => exact absurd (List.cons.inj heq).1 hc
      | cons d inside =>
          obtain ⟨rfl, hbehind⟩ := List.cons.inj heq
          obtain ⟨tail, houter, hinside, htail⟩ := ih hbehind
          exact ⟨tail, houter, .char hc hinside, htail⟩
  | @stray c rest hc hrest ih =>
      match inside with
      | [] =>
          obtain rfl : c = '/' := (List.cons.inj (List.cons.inj heq).2).1
          exact absurd hc (by decide)
      | [d] =>
          obtain rfl : c = '<' := (List.cons.inj (List.cons.inj heq).2).1
          exact absurd hc (by decide)
      | d :: e :: inside =>
          obtain ⟨rfl, htwo⟩ := List.cons.inj heq
          obtain ⟨rfl, hbehind⟩ := List.cons.inj htwo
          obtain ⟨tail, houter, hinside, htail⟩ := ih hbehind
          exact ⟨tail, houter, .stray hc hinside, htail⟩
  | @closed inner rest hinner hrest ih =>
      rw [List.cons_append, List.append_assoc, List.cons_append] at heq
      cases inside with
      | nil =>
          have hbrackets := (List.cons.inj heq).2
          have hslash : '>' ∉ '/' :: name := List.not_mem_cons_of_ne_of_not_mem (by decide) hname.2
          have hinside : inner = '/' :: name := by
            rw [← takeWhile_append_stop hinner.2 (rest ++ last), hbrackets]
            exact takeWhile_append_stop hslash outer
          have houter : '>' :: (rest ++ last) = '>' :: outer := by
            rw [hinside] at hbrackets
            exact List.append_cancel_left hbrackets
          exact ⟨rest, (List.cons.inj houter).2.symm, .nil, hrest⟩
      | cons d inside =>
          obtain ⟨rfl, hbrackets⟩ := List.cons.inj heq
          have hplain : '<' ∉ inner ++ ['>'] := List.not_mem_append hinner.1 (by decide)
          have hsplit : inside ++ '<' :: '/' :: (name ++ '>' :: outer)
              = inner ++ ['>'] ++ (rest ++ last) :=
            hbrackets.symm.trans (by rw [List.append_assoc, List.singleton_append])
          obtain ⟨back, rfl, hback⟩ := exists_of_append_cons_eq hplain hsplit
          obtain ⟨tail, houter, hinside, htail⟩ := ih hback
          rw [List.append_assoc, List.singleton_append]
          exact ⟨tail, houter, .closed hinner hinside, htail⟩

/-! ## What the rounds report -/

/-- The names of the opening tags come from what a sweep finds. -/
theorem openingNames_eq (text : List Char) :
    openingNames text
      = ((valuesOf scanOpening text).filter (!·.selfClosing)).map Opening.name := by
  rw [valuesOf, List.filter_map, List.map_map]
  rfl

/-- The opening tags of a settled text come before those behind it. -/
theorem openingNames_append (hfront : Settled front) (rest : List Char) :
    openingNames (front ++ rest) = openingNames front ++ openingNames rest := by
  rw [openingNames_eq, readsBrackets_scanOpening.valuesOf_append hfront, List.filter_append,
    List.map_append, ← openingNames_eq, ← openingNames_eq]

/-- The names of the opening tags of a text are that of the first one, and those behind it. -/
theorem openingNames_of_firstOpening (passing : Nat) (text : List Char) :
    openingNames (text.drop passing)
      = (firstOpening passing text).elim [] fun found => found.2.1 :: openingNames found.2.2 := by
  induction text generalizing passing with
  | nil => cases passing <;> rfl
  | cons c rest ih =>
      have hfurther : ∀ found? : Option (List Char × List Char × List Char),
          ((found?.map (behind [c])).elim [] fun found => found.2.1 :: openingNames found.2.2)
            = found?.elim [] fun found => found.2.1 :: openingNames found.2.2 := by
        intro found?
        cases found? <;> rfl
      cases passing with
      | succ passing => exact (ih passing).trans (hfurther _).symm
      | zero =>
          rw [List.drop_zero]
          cases hscan : scanOpening none (c :: rest) with
          | none =>
              rw [firstOpening_of_eq_none hscan, hfurther, ← ih 0, List.drop_zero, openingNames_eq,
                openingNames_eq, readsBrackets_scanOpening.looksAhead.valuesOf_of_eq_none hscan]
          | some hit =>
              have hvalues : valuesOf scanOpening (c :: rest)
                  = hit.value :: valuesOf scanOpening (rest.drop hit.more) := by
                have hlook := readsBrackets_scanOpening.looksAhead
                rw [valuesOf, sweep, sweepFrom, hscan]
                exact congrArg (hit.value :: ·) (hlook.map_value_sweepFrom (some c) hit.more _ rest)
              rw [openingNames_eq, hvalues, List.filter_cons, firstOpening, hscan]
              cases hself : hit.value.selfClosing with
              | true =>
                  simp only [hself, Bool.not_true, Bool.false_eq_true, if_false, if_true]
                  rw [← openingNames_eq]
                  exact (ih hit.more).trans (hfurther _).symm
              | false =>
                  simp only [hself, Bool.not_false, Bool.false_eq_true, if_false, if_true,
                    Option.elim_some, List.map_cons]
                  rw [← openingNames_eq]

/-- There is no opening tag in a text that is passed over. -/
theorem Passed.openingNames_eq_nil (h : Passed front) : openingNames front = [] := by
  have hnone := openingNames_of_firstOpening 0 (front ++ [])
  rw [h, List.drop_zero, List.append_nil] at hnone
  exact hnone

/-- There is no opening tag in the end of a text. -/
theorem OpenEnd.firstOpening_eq_none (h : OpenEnd last) : firstOpening 0 last = none := by
  have hnone := openingNames_of_firstOpening 0 last
  rw [List.drop_zero, openingNames_eq, readsBrackets_scanOpening.valuesOf_openEnd h] at hnone
  cases hfound : firstOpening 0 last with
  | none => rfl
  | some found =>
      rw [hfound] at hnone
      exact nomatch hnone

/-- Taking out what stands from one bracket to the next leaves only what is found anyway. -/
theorem ReadsBrackets.valuesOf_sublist_of_closed (h : ReadsBrackets scan)
    (hinner : Bracketless inner) (rest : List Char) :
    (valuesOf scan rest).Sublist (valuesOf scan ('<' :: (inner ++ '>' :: rest))) := by
  obtain ⟨found, hfound⟩ := h.exists_valuesOf_closed hinner
  rw [hfound]
  exact List.sublist_append_right found _

/-- A text is cut down: the brackets of what is left of it stand apart, and no scanner of tags
    finds anything there that it does not find in the text. -/
structure CutTo (text left : List Char) : Prop where
  apart : BracketsApart left
  finds_less : ∀ {α : Type} {scan : Scanner α}, ReadsBrackets scan →
    (valuesOf scan left).Sublist (valuesOf scan text)

/-- A text whose brackets stand apart is cut down by taking a closing tag out of it. -/
theorem BracketsApart.cutTo_of_closingTag {inside outer : List Char} (hfront : Settled front)
    (hlast : OpenEnd last) (hname : Bracketless name)
    (heq : front ++ last = inside ++ (closingTag name ++ outer)) :
    CutTo (front ++ last) (inside ++ outer) := by
  obtain ⟨tail, rfl, hinside, htail⟩ := hfront.exists_of_closingTag hlast hname heq
  have hslash : Bracketless ('/' :: name) :=
    ⟨List.not_mem_cons_of_ne_of_not_mem (by decide) hname.1,
      List.not_mem_cons_of_ne_of_not_mem (by decide) hname.2⟩
  have hwritten : closingTag name ++ (tail ++ last)
      = '<' :: ('/' :: name ++ '>' :: (tail ++ last)) := by
    simp only [closingTag, List.append_assoc, List.cons_append, List.nil_append]
  refine ⟨⟨inside ++ tail, last, hinside.append htail, hlast, (List.append_assoc ..).symm⟩, ?_⟩
  intro α scan hscan
  rw [heq, hscan.valuesOf_append hinside, hscan.valuesOf_append hinside, hwritten]
  exact (hscan.valuesOf_sublist_of_closed hslash _).append_left _

/-- A round takes out tags of a text whose brackets stand apart: the text that is left is of
    the same kind and has no tags but those of the text, and the tag that is reported, if one
    is, is an opening tag that has been taken out. -/
structure Shrinks (text : List Char) (round : Round) : Prop where
  apart : BracketsApart round.left
  openings : (round.unclosed.toList ++ openingNames round.left).Sublist (openingNames text)
  closings : (valuesOf scanClosing round.left).Sublist (valuesOf scanClosing text)

/-- A round that takes out the first opening tag, and cuts down what stands behind it. -/
theorem SplitsAt.shrinks {before after kept : List Char} {unclosed : Option (List Char)}
    (h : SplitsAt front before inner name after) (hcut : CutTo (after ++ last) kept)
    (hunclosed : unclosed.toList.Sublist [name]) :
    Shrinks (front ++ last) ⟨unclosed, before ++ kept⟩ := by
  have hclosed : front ++ last = before ++ '<' :: (inner ++ '>' :: (after ++ last)) := by
    rw [h.front_eq, List.append_assoc, List.cons_append, List.append_assoc, List.cons_append]
  obtain ⟨keptFront, keptLast, hkeptFront, hkeptLast, rfl⟩ := hcut.apart
  refine ⟨⟨before ++ keptFront, keptLast, h.settled_before.append hkeptFront, hkeptLast,
    (List.append_assoc ..).symm⟩, ?_, ?_⟩
  · have hfirst := openingNames_of_firstOpening 0 (front ++ last)
    rw [List.drop_zero, hclosed, h.passed_before, h.opens] at hfirst
    have hkept := hcut.finds_less readsBrackets_scanOpening
    have hnames : openingNames (front ++ last) = [name] ++ openingNames (after ++ last) := by
      rw [hclosed]
      exact hfirst
    rw [hnames, openingNames_append h.settled_before, h.passed_before.openingNames_eq_nil,
      List.nil_append, openingNames_eq, openingNames_eq]
    exact hunclosed.append ((hkept.filter _).map _)
  · have hkept := hcut.finds_less readsBrackets_scanClosing
    rw [hclosed, readsBrackets_scanClosing.valuesOf_append h.settled_before,
      readsBrackets_scanClosing.valuesOf_append h.settled_before]
    refine List.Sublist.append_left ?_ _
    exact hkept.trans (readsBrackets_scanClosing.valuesOf_sublist_of_closed h.bracketless_inner _)

/-- **A round keeps the brackets of a text apart**, and it makes no tag. -/
theorem BracketsApart.step (h : BracketsApart text) {round : Round}
    (hround : nextRound? text = some round) : Shrinks text round := by
  obtain ⟨front, last, hfront, hlast, rfl⟩ := h
  rcases hfront.passed_or_splitsAt with hpassed | ⟨before, inner, name, after, hsplit⟩
  · rw [nextRound?, hpassed, hlast.firstOpening_eq_none] at hround
    exact absurd hround.symm (Option.some_ne_none round)
  · have hfirst : firstOpening 0 (front ++ last) = some (before, name, after ++ last) := by
      rw [hsplit.front_eq, List.append_assoc, List.cons_append, List.append_assoc,
        List.cons_append, hsplit.passed_before, hsplit.opens, Option.map_some, behind,
        List.append_nil]
    rw [nextRound?, hfirst] at hround
    dsimp only at hround
    split at hround
    · rename_i inside outer hpartner
      obtain rfl := Option.some.inj hround
      have hfound := of_splitOnce_eq_some (List.cons_ne_nil _ _) hpartner
      have hcut := BracketsApart.cutTo_of_closingTag hsplit.settled_after hlast
        hsplit.bracketless_name hfound.1
      rw [List.append_assoc]
      exact hsplit.shrinks hcut (List.nil_sublist _)
    · obtain rfl := Option.some.inj hround
      have hcut : CutTo (after ++ last) (after ++ last) :=
        ⟨⟨after, last, hsplit.settled_after, hlast, rfl⟩, fun _ => List.Sublist.refl _⟩
      exact hsplit.shrinks hcut (List.Sublist.refl _)

/-- **The rounds report opening tags of the text**, each as often as it is there at most, and
    the closing tags that are left are closing tags of the text. -/
theorem BracketsApart.rounds_sublist (h : BracketsApart text) :
    ((rounds text).filterMap (·.unclosed)).Sublist (openingNames text)
      ∧ (valuesOf scanClosing (leftover text)).Sublist (valuesOf scanClosing text) := by
  induction hlength : text.length using Nat.strongRecOn generalizing text with
  | ind length ih =>
      cases hround : nextRound? text with
      | none =>
          obtain ⟨hrounds, hleft⟩ := rounds_of_eq_none hround
          rw [hrounds, hleft]
          exact ⟨List.nil_sublist _, List.Sublist.refl _⟩
      | some round =>
          obtain ⟨hrounds, hleft⟩ := rounds_of_eq_some hround
          obtain ⟨hapart, hopenings, hclosings⟩ := h.step hround
          obtain ⟨hunclosed, hunopened⟩ :=
            ih round.left.length (hlength ▸ nextRound?_length hround) hapart rfl
          rw [hrounds, hleft, List.filterMap_cons]
          refine ⟨?_, hunopened.trans hclosings⟩
          refine List.Sublist.trans ?_ hopenings
          cases round.unclosed with
          | none => exact hunclosed
          | some name => exact hunclosed.cons_cons name

/-! ## The tags that are reported -/

/-- What is found as a closing tag is written so. -/
theorem closingTag_prefix_of_scanClosing {before : Option Char} {hit : Hit (List Char)}
    (h : scanClosing before text = some hit) : closingTag hit.value <+: text := by
  unfold scanClosing at h
  split at h
  · rename_i behind
    by_cases hcloser : '>' ∈ behind
    · obtain ⟨name, rest, rfl, hname⟩ := List.eq_append_cons_of_mem hcloser
      rw [takeWhile_append_stop hname] at h
      simp only [List.drop_left] at h
      split at h
      · exact nomatch h
      · obtain rfl := Option.some.inj h
        refine ⟨rest, ?_⟩
        simp only [closingTag, List.append_assoc, List.cons_append, List.nil_append]
    · simp only [takeWhile_of_closer_notMem hcloser, List.drop_length, ite_self] at h
      exact nomatch h
  · exact nomatch h

/-- A closing tag that is found in a text is written in it. -/
theorem closingTag_infix_of_mem (h : name ∈ valuesOf scanClosing text) :
    closingTag name <:+: text := by
  rw [valuesOf, sweep_eq_map_lineOf, List.map_map] at h
  obtain ⟨found, hmem, rfl⟩ := List.mem_map.mp h
  obtain ⟨htext, hscan⟩ := of_mem_matchesOf hmem
  have hsuffix : found.rest <:+ text := ⟨found.before, htext.symm⟩
  exact (closingTag_prefix_of_scanClosing hscan).isInfix.trans hsuffix.isInfix

/-- A name is reported as unclosed as often as the rounds report it. -/
theorem count_unclosed_checkBalance (value name : String) :
    (checkBalance value).count (.unclosed name)
      = (((rounds value.toList).filterMap (·.unclosed)).map String.ofList).count name := by
  have hinjective : Function.Injective TagIssue.unclosed := fun _ _ h => TagIssue.unclosed.inj h
  have hclosings : (((sweep scanClosing (leftover value.toList)).map
      (TagIssue.unopened <| String.ofList ·.value)).count (.unclosed name)) = 0 := by
    refine List.count_eq_zero.mpr fun hmem => ?_
    obtain ⟨found, -, hfound⟩ := List.mem_map.mp hmem
    exact nomatch hfound
  rw [checkBalance, List.count_append, hclosings, Nat.add_zero,
    ← List.count_map_of_injective _ TagIssue.unclosed hinjective, List.map_map]
  rfl

/-- A name that is reported as unopened is found in the text that is left at the end. -/
theorem mem_of_unopened_mem_checkBalance {value name : String}
    (h : .unopened name ∈ checkBalance value) :
    name.toList ∈ valuesOf scanClosing (leftover value.toList) := by
  rcases List.mem_append.mp h with hopening | hclosing
  · obtain ⟨opening, -, hopening⟩ := List.mem_map.mp hopening
    exact nomatch hopening
  · obtain ⟨found, hfound, heq⟩ := List.mem_map.mp hclosing
    obtain rfl : String.ofList found.value = name := TagIssue.unopened.inj heq
    rw [String.toList_ofList]
    exact List.mem_map_of_mem hfound

/-- **Only tags that are written are reported** if the brackets of a value stand apart: an
    opening tag is reported at most as often as it stands in the value, and a closing tag that
    is reported stands in the value. -/
theorem only_written_tags_are_reported {value : String} (h : BracketsApart value.toList) :
    (∀ name, (checkBalance value).count (.unclosed name) ≤ (openingTags value).count name)
      ∧ ∀ name, .unopened name ∈ checkBalance value →
        closingTag name.toList <:+: value.toList := by
  obtain ⟨hopenings, hclosings⟩ := h.rounds_sublist
  constructor
  · intro name
    rw [count_unclosed_checkBalance]
    exact (hopenings.map String.ofList).count_le name
  · intro name hmem
    exact closingTag_infix_of_mem (hclosings.subset (mem_of_unopened_mem_checkBalance hmem))

/-- A value that compares numbers, and has one tag too many on each side. -/
theorem only_written_tags_are_reported_beside_a_comparison :
    BracketsApart "1 < 2 <b>x</i> 3 <".toList
      ∧ ((∀ name, (checkBalance "1 < 2 <b>x</i> 3 <").count (.unclosed name)
            ≤ (openingTags "1 < 2 <b>x</i> 3 <").count name)
          ∧ ∀ name, .unopened name ∈ checkBalance "1 < 2 <b>x</i> 3 <" →
            closingTag name.toList <:+: "1 < 2 <b>x</i> 3 <".toList) := by
  have hapart : BracketsApart "1 < 2 <b>x</i> 3 <".toList := by
    have hbold : Settled "<b>x</i> 3 ".toList := by
      refine @Settled.closed "b".toList _ (by decide) ?_
      refine .char (by decide) (@Settled.closed "/i".toList _ (by decide) ?_)
      exact .char (by decide) (.char (by decide) (.char (by decide) .nil))
    have hfront : Settled "1 < 2 <b>x</i> 3 ".toList := by
      refine .char (by decide) (.char (by decide) (.stray (by decide) ?_))
      exact .char (by decide) (.char (by decide) hbold)
    exact ⟨_, ['<'], hfront, Or.inr ⟨[], by decide, rfl⟩, rfl⟩
  exact ⟨hapart, only_written_tags_are_reported hapart⟩

/-- Behind a bracket that is left open a tag that is taken out makes another one: `xy` is no
    opening tag of the first value, and the second one does not hold the closing tag of `b`. -/
theorem spliced_tags_are_reported :
    (checkBalance "<a><x</a>y>" = [.unclosed "xy"] ∧ openingTags "<a><x</a>y>" = ["a"])
      ∧ (checkBalance "<a><</a>/b>" = [.unopened "b"]
        ∧ ¬ closingTag "b".toList <:+: "<a><</a>/b>".toList) := by
  decide +kernel

end CatalogLint.Markup
