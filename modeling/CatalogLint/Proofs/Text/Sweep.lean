import CatalogLint.Text.Sweep

/-! # The lines of a sweep

    A sweep knows the line it is on by the line feeds it has passed.  So whatever it finds
    lies on a line of the text, wherever in the text a scanner puts the place to report
    (`line_of_mem_sweep`).  A text has one line more than it has line feeds
    (`length_splitOn_feed`), so its lines stay where they are if matches are replaced by
    texts with as many line feeds (`lineFeeds_substitute`). -/

namespace CatalogLint.Text

variable {α : Type} {scan : Scanner α} {before : Option Char} {found : Located α}
variable {passing line : Nat} {text : List Char}

/-! ## Line feeds -/

/-- Line feeds are counted part by part. -/
theorem lineFeeds_append (first second : List Char) :
    lineFeeds (first ++ second) = lineFeeds first + lineFeeds second :=
  List.count_append ..

/-- The line feeds of a text are those at its head and those of the rest. -/
theorem lineFeeds_cons (c : Char) (rest : List Char) :
    lineFeeds (c :: rest) = lineFeeds [c] + lineFeeds rest :=
  lineFeeds_append [c] rest

/-- A text has one line more than it has line feeds. -/
theorem length_splitOn_feed (text : List Char) :
    (text.splitOn '\n').length = lineFeeds text + 1 := by
  induction text with
  | nil => rfl
  | cons c rest ih =>
      rw [List.splitOn, List.splitOnP_cons_eq_if_modifyHead, lineFeeds, List.count_cons]
      split
      · exact congrArg (· + 1) ih
      · rw [List.length_modifyHead]
        exact ih

/-! ## What a sweep finds -/

/-- What is found lies between the first line of a text and its last one. -/
theorem line_of_mem_sweepFrom (h : found ∈ sweepFrom scan before passing line text) :
    line ≤ found.line ∧ found.line ≤ line + lineFeeds text := by
  induction text generalizing before passing line with
  | nil => exact nomatch h
  | cons c rest ih =>
      have hlater : ∀ {before : Option Char} {passing : Nat},
          found ∈ sweepFrom scan before passing (line + lineFeeds [c]) rest →
            line ≤ found.line ∧ found.line ≤ line + lineFeeds (c :: rest) := by
        intro before passing hmem
        have hrest := ih hmem
        rw [lineFeeds_cons c rest]
        omega
      cases passing with
      | succ passing => exact hlater h
      | zero =>
          rw [sweepFrom] at h
          split at h
          · exact hlater h
          · rename_i hit _
            rcases List.mem_cons.mp h with hhere | hmem
            · -- the place to report may lie some lines below the start of the match
              have hplace : lineFeeds ((c :: rest).take hit.offset) ≤ lineFeeds (c :: rest) :=
                (List.take_sublist _ _).count_le '\n'
              rw [hhere]
              exact ⟨Nat.le_add_right _ _, Nat.add_le_add_left hplace line⟩
            · exact hlater hmem

/-- **What a sweep finds lies on a line of the text.** -/
theorem line_of_mem_sweep (h : found ∈ sweep scan text) :
    1 ≤ found.line ∧ found.line ≤ (text.splitOn '\n').length := by
  have hline := line_of_mem_sweepFrom h
  rw [length_splitOn_feed]
  omega

/-- A sweep goes on behind the characters that it passes over. -/
theorem sweepFrom_pass (scan : Scanner α) (before : Option Char) (line : Nat)
    (stretch rest : List Char) :
    ∃ before' line', sweepFrom scan before stretch.length line (stretch ++ rest)
      = sweepFrom scan before' 0 line' rest := by
  induction stretch generalizing before line with
  | nil => exact ⟨before, line, rfl⟩
  | cons c stretch ih => exact ih (some c) (line + lineFeeds [c])

/-! ## Scanners that do not look back -/

/-- A scanner does not look at the character before a text. -/
def LooksAhead (scan : Scanner α) : Prop :=
  ∀ before text, scan before text = scan none text

/-- What a sweep finds, without the lines. -/
def valuesOf (scan : Scanner α) (text : List Char) : List α :=
  (sweep scan text).map Located.value

namespace LooksAhead

variable {rest : List Char}

/-- Behind the characters that are passed over a sweep begins anew, but for the lines. -/
theorem map_value_sweepFrom (h : LooksAhead scan) (before : Option Char) (passing line : Nat)
    (text : List Char) :
    (sweepFrom scan before passing line text).map Located.value
      = valuesOf scan (text.drop passing) := by
  -- the text itself is swept from the state at its start, so both states are generalised
  suffices hsame : ∀ before before' line line',
      (sweepFrom scan before passing line text).map Located.value
        = (sweepFrom scan before' 0 line' (text.drop passing)).map Located.value from
    hsame before none line 1
  induction text generalizing passing with
  | nil => intro before before' line line'; cases passing <;> rfl
  | cons c rest ih =>
      intro before before' line line'
      cases passing with
      | succ passing => exact ih passing (some c) before' (line + lineFeeds [c]) line'
      | zero =>
          rw [List.drop_zero, sweepFrom, sweepFrom, h before, h before']
          cases scan none (c :: rest) with
          | none => exact ih 0 (some c) (some c) _ _
          | some hit =>
              have hrest := (ih hit.more (some c) none (line + lineFeeds [c]) 1).trans
                (ih hit.more (some c) none (line' + lineFeeds [c]) 1).symm
              exact congrArg (hit.value :: ·) hrest

/-- Nothing is found where the scanner finds nothing. -/
theorem valuesOf_of_eq_none (h : LooksAhead scan) {c : Char}
    (hscan : scan none (c :: rest) = none) : valuesOf scan (c :: rest) = valuesOf scan rest := by
  rw [valuesOf, sweep, sweepFrom, hscan]
  exact h.map_value_sweepFrom (some c) 0 _ rest

/-- A match is found, and then what stands behind it. -/
theorem valuesOf_of_eq_some (h : LooksAhead scan) {matched : List Char} {hit : Hit α}
    (hscan : scan none (matched ++ rest) = some hit) (hlength : matched.length = hit.more + 1) :
    valuesOf scan (matched ++ rest) = hit.value :: valuesOf scan rest := by
  obtain ⟨c, more, rfl⟩ := List.exists_cons_of_length_eq_add_one hlength
  rw [List.cons_append] at hscan ⊢
  rw [valuesOf, sweep, sweepFrom, hscan]
  show hit.value :: (sweepFrom scan (some c) hit.more _ (more ++ rest)).map Located.value = _
  rw [h.map_value_sweepFrom, List.drop_left' (Nat.succ.inj hlength)]

variable {scan : Scanner (List Char)}

/-- Behind the characters that are passed over a substitution begins anew. -/
theorem substituteFrom_eq (h : LooksAhead scan) (before : Option Char) (passing : Nat)
    (text : List Char) :
    substituteFrom scan before passing text = substitute scan (text.drop passing) := by
  induction text generalizing before passing with
  | nil => cases passing <;> rfl
  | cons c rest ih =>
      cases passing with
      | zero =>
          show substituteFrom scan before 0 (c :: rest) = substituteFrom scan none 0 (c :: rest)
          rw [substituteFrom, substituteFrom, h before]
      | succ passing => exact ih (some c) passing

/-- A character stays where the scanner finds nothing. -/
theorem substitute_of_eq_none (h : LooksAhead scan) {c : Char}
    (hscan : scan none (c :: rest) = none) :
    substitute scan (c :: rest) = c :: substitute scan rest := by
  rw [substitute, substituteFrom, hscan]
  exact congrArg (c :: ·) (h.substituteFrom_eq (some c) 0 rest)

/-- A match is replaced by what was found. -/
theorem substitute_of_eq_some (h : LooksAhead scan) {matched : List Char} {hit : Hit (List Char)}
    (hscan : scan none (matched ++ rest) = some hit) (hlength : matched.length = hit.more + 1) :
    substitute scan (matched ++ rest) = hit.value ++ substitute scan rest := by
  obtain ⟨c, more, rfl⟩ := List.exists_cons_of_length_eq_add_one hlength
  rw [List.cons_append] at hscan ⊢
  rw [substitute, substituteFrom, hscan]
  show hit.value ++ substituteFrom scan (some c) hit.more (more ++ rest) = _
  rw [h.substituteFrom_eq, List.drop_left' (Nat.succ.inj hlength)]

end LooksAhead

/-! ## What a substitution keeps -/

/-- Behind the characters that are passed over a substitution keeps the number of line
    feeds, if every match is replaced by a text with as many. -/
theorem lineFeeds_substituteFrom {scan : Scanner (List Char)}
    (hscan : ∀ before text hit, scan before text = some hit →
      lineFeeds hit.value = lineFeeds (text.take (hit.more + 1)))
    (before : Option Char) (passing : Nat) (text : List Char) :
    lineFeeds (substituteFrom scan before passing text) = lineFeeds (text.drop passing) := by
  induction text generalizing before passing with
  | nil => rw [List.drop_nil, substituteFrom]
  | cons c rest ih =>
      cases passing with
      | succ passing => exact ih (some c) passing
      | zero =>
          rw [substituteFrom, List.drop_zero]
          split
          · rw [lineFeeds_cons, ih, List.drop_zero, ← lineFeeds_cons]
          · rename_i hit hhit
            rw [lineFeeds_append, ih, hscan _ _ _ hhit, ← List.drop_succ_cons, ← lineFeeds_append,
              List.take_append_drop]

/-- **A substitution keeps the number of line feeds** if every match is replaced by a text
    with as many. -/
theorem lineFeeds_substitute {scan : Scanner (List Char)}
    (hscan : ∀ before text hit, scan before text = some hit →
      lineFeeds hit.value = lineFeeds (text.take (hit.more + 1)))
    (text : List Char) : lineFeeds (substitute scan text) = lineFeeds text :=
  lineFeeds_substituteFrom hscan none 0 text

end CatalogLint.Text
