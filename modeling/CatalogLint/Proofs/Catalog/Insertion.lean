import CatalogLint.Proofs.Catalog.Lines

/-! # Lines put into a catalog

    The check of some lines goes on where the check of the lines before them has ended
    (`checkLines_append`), and all it takes over from there is what is known so far and a
    number.  The number shows in the lines of the findings and nowhere else
    (`checkLines_pushedDown`), and a line without a pair leaves what is known as it is
    (`checkLines_cons_of_no_pair`).  So if such a line is put into a catalog, the findings
    behind it move down by one line, its own come in between, and nothing else changes
    (`line_without_pair_affects_only_itself`). -/

namespace CatalogLint

/-- The finding after one more line has come in behind the given one: what lies past that
    line lies one line further down. -/
def Finding.pushedDown (place : Nat) (finding : Finding) : Finding :=
  { finding with
    line := finding.line.map fun number => if place < number then number + 1 else number }

namespace Catalog

variable {rules : Rules} {progress : Progress} {place number : Nat} {finding : Finding}

/-! ## Moving down -/

/-- A finding up to the place stays where it is. -/
theorem pushedDown_of_le (hline : finding.line = some number) (h : number ≤ place) :
    finding.pushedDown place = finding := by
  cases finding with
  | mk category severity message line file =>
      dsimp only at hline
      rw [hline, Finding.pushedDown, Option.map_some, if_neg (Nat.not_lt.mpr h)]

/-- A finding at a line past the place is the same finding at the next line. -/
theorem pushedDown_atLine (h : place < number) (finding : Finding) :
    (finding.atLine number).pushedDown place = finding.atLine (number + 1) := by
  rw [Finding.pushedDown, Finding.atLine, Option.map_some, if_pos h]
  rfl

/-- What is reported about lines up to the place stays where it is. -/
theorem map_pushedDown_checkLines (rules : Rules) (progress : Progress) {lines : List (List Char)}
    (h : number + lines.length ≤ place + 1) :
    (checkLines rules progress number lines).1.map (·.pushedDown place)
      = (checkLines rules progress number lines).1 := by
  have hstay : ∀ finding ∈ (checkLines rules progress number lines).1,
      finding.pushedDown place = finding := by
    intro finding hmem
    obtain ⟨line, hline, -, hlast⟩ := line_of_mem_checkLines hmem
    exact pushedDown_of_le hline (by omega)
  exact (List.map_congr_left hstay).trans (List.map_id _)

/-- What is asked of findings, whatever their lines, is not changed by moving some of them
    down. -/
theorem any_pushedDown {asked : Finding → Bool}
    (hasked : ∀ finding, asked (finding.pushedDown place) = asked finding)
    (before own after : List Finding) :
    (before.map (·.pushedDown place) ++ own ++ after.map (·.pushedDown place)).any asked
      = ((before ++ after).any asked || own.any asked) := by
  simp only [List.any_append, List.any_map, Function.comp_def, hasked]
  exact Bool.or_right_comm _ _ _

/-- Lines past the place are checked alike one line further down. -/
theorem checkLines_pushedDown (rules : Rules) (progress : Progress) (h : place < number)
    (lines : List (List Char)) :
    checkLines rules progress (number + 1) lines
      = ((checkLines rules progress number lines).1.map (·.pushedDown place),
        (checkLines rules progress number lines).2) := by
  induction lines generalizing progress number with
  | nil => rfl
  | cons line rest ih =>
      have hline : findingsAt rules progress (number + 1) line
          = (findingsAt rules progress number line).map (·.pushedDown place) := by
        simp only [findingsAt, List.map_map]
        exact List.map_congr_left fun finding _ => (pushedDown_atLine h finding).symm
      simp only [checkLines, ih _ (Nat.lt_succ_of_lt h), hline, List.map_append]

/-! ## Lines after lines -/

/-- The check of some lines goes on where that of the lines before them has ended. -/
theorem checkLines_append (rules : Rules) (progress : Progress) (number : Nat)
    (first second : List (List Char)) :
    checkLines rules progress number (first ++ second)
      = let checked := checkLines rules progress number first
        let rest := checkLines rules checked.2 (number + first.length) second
        (checked.1 ++ rest.1, rest.2) := by
  induction first generalizing progress number with
  | nil => rfl
  | cons line first ih =>
      simp only [List.cons_append, checkLines, ih, List.append_assoc, List.length_cons,
        Nat.add_right_comm number 1, ← Nat.add_assoc]

/-- The lines of two texts with a line feed in between are those of the one and then those
    of the other. -/
theorem splitOn_feed_append (first second : String) :
    (first ++ "\n" ++ second).toList.splitOn '\n'
      = first.toList.splitOn '\n' ++ second.toList.splitOn '\n' := by
  rw [String.toList_append, String.toList_append, List.append_assoc]
  exact List.splitOn_append_cons_self _ _

/-! ## Lines without a pair -/

/-- A line without a pair brings the findings about its shape and nothing else. -/
theorem checkLines_cons_of_no_pair {line : List Char}
    (h : lineVerdict rules.options.indentUnit.toList line = .skip
      ∨ lineVerdict rules.options.indentUnit.toList line = .malformed)
    (progress : Progress) (number : Nat) (rest : List (List Char)) :
    checkLines rules progress number (line :: rest)
      = let checked := checkLines rules progress (number + 1) rest
        ((lineFindings rules.options.indentUnit.toList line).map (·.atLine number) ++ checked.1,
          checked.2) := by
  rcases h with h | h <;> simp only [checkLines, findingsAt, h, List.append_nil] <;> rfl

/-- **A line without a pair between other lines** moves what is reported behind it down by
    one line and adds what is reported about its shape. -/
theorem checkLines_insert {line : List Char}
    (h : lineVerdict rules.options.indentUnit.toList line = .skip
      ∨ lineVerdict rules.options.indentUnit.toList line = .malformed)
    (progress : Progress) (first second : List (List Char)) :
    let place := first.length
    let checked := checkLines rules progress 1 first
    let rest := checkLines rules checked.2 (place + 1) second
    checkLines rules progress 1 (first ++ second) = (checked.1 ++ rest.1, rest.2)
      ∧ checkLines rules progress 1 (first ++ line :: second)
        = (checked.1.map (·.pushedDown place)
            ++ (lineFindings rules.options.indentUnit.toList line).map (·.atLine (place + 1))
            ++ rest.1.map (·.pushedDown place), rest.2) := by
  intro place checked rest
  have hplace : 1 + first.length = place + 1 := Nat.add_comm 1 place
  constructor
  · rw [checkLines_append, hplace]
  · rw [checkLines_append, hplace]
    dsimp only
    rw [checkLines_cons_of_no_pair h,
      checkLines_pushedDown rules checked.2 (Nat.lt_succ_self place) second,
      map_pushedDown_checkLines rules progress (Nat.le_of_eq hplace), List.append_assoc]

/-- **A line that is not a pair affects nothing but itself**, wherever it comes into a
    catalog.  The keys and the values are the same with and without the line.  The findings
    are those without the line, one line further down if they lie past the place where it
    comes in, and at that place the findings about the shape of the line itself.  So the flags
    change by these findings only. -/
theorem line_without_pair_affects_only_itself (options : Options)
    (compiled : List (String × List CompiledPattern)) (above line below language : String)
    (hfeed : '\n' ∉ line.toList)
    (hverdict : lineVerdict options.indentUnit.toList line.toList = .skip
      ∨ lineVerdict options.indentUnit.toList line.toList = .malformed) :
    let place := (above.toList.splitOn '\n').length
    let without := check options compiled (above ++ "\n" ++ below) language
    let inserted := check options compiled (above ++ "\n" ++ line ++ "\n" ++ below) language
    let own := (lineFindings options.indentUnit.toList line.toList).map (·.atLine (place + 1))
    inserted.orderedKeys = without.orderedKeys
    ∧ inserted.values = without.values
    ∧ (∃ before after, without.findings = before ++ after
      ∧ (∀ finding ∈ before, ∃ number, finding.line = some number ∧ number ≤ place)
      ∧ (∀ finding ∈ after, ∃ number, finding.line = some number ∧ place < number)
      ∧ inserted.findings
        = before.map (·.pushedDown place) ++ own ++ after.map (·.pushedDown place))
    ∧ (∀ finding ∈ own,
        finding.category = .trailingWhitespace ∨ finding.category = .malformedLine)
    ∧ inserted.hasError = (without.hasError || own.any (·.isError))
    ∧ inserted.hasWarning = (without.hasWarning || own.any (·.isWarning)) := by
  intro place without inserted own
  let rules : Rules := ⟨options, forbiddenFor compiled language⟩
  let checked := checkLines rules {} 1 (above.toList.splitOn '\n')
  let rest := checkLines rules checked.2 (place + 1) (below.toList.splitOn '\n')
  obtain ⟨happend, hinsert⟩ := @checkLines_insert rules line.toList hverdict {}
    (above.toList.splitOn '\n') (below.toList.splitOn '\n')
  have hline : line.toList.splitOn '\n' = [line.toList] :=
    List.splitOn_eq_singleton hfeed
  have hwithout : without = ⟨checked.1 ++ rest.1, rest.2.keys.ordered, rest.2.values⟩ := by
    show checkText rules _ = _
    rw [checkText_eq, splitOn_feed_append, happend]
  have hinserted : inserted
      = ⟨checked.1.map (·.pushedDown place) ++ own ++ rest.1.map (·.pushedDown place),
        rest.2.keys.ordered, rest.2.values⟩ := by
    show checkText rules _ = _
    rw [checkText_eq, splitOn_feed_append, splitOn_feed_append, hline, List.append_assoc,
      List.singleton_append, hinsert]
  rw [hinserted, hwithout]
  refine ⟨rfl, rfl, ⟨checked.1, rest.1, rfl, ?_, ?_, rfl⟩, ?_, ?_, ?_⟩
  · intro finding hmem
    obtain ⟨number, hnumber, -, hlast⟩ := line_of_mem_checkLines hmem
    exact ⟨number, hnumber, by omega⟩
  · intro finding hmem
    obtain ⟨number, hnumber, hfirst, -⟩ := line_of_mem_checkLines hmem
    exact ⟨number, hnumber, hfirst⟩
  · intro finding hmem
    obtain ⟨reported, hreported, rfl⟩ := List.mem_map.mp hmem
    show reported.category = _ ∨ reported.category = _
    exact of_mem_lineFindings hreported
  · exact any_pushedDown (fun _ => rfl) checked.1 own rest.1
  · exact any_pushedDown (fun _ => rfl) checked.1 own rest.1

/-- A malformed line with white space at its end, between two pairs and the line that
    repeats the first of them: the later findings move down, and its own come in between. -/
theorem malformed_line_between_pairs :
    let options : Options := {}
    let inserted := check options [] "\"b\": \"1\"\noops \n\"a\": \"2\"\n\"b\": \"3\"" "en"
    '\n' ∉ "oops ".toList
    ∧ lineVerdict options.indentUnit.toList "oops ".toList = .malformed
    ∧ inserted.orderedKeys = ["b", "a"]
    ∧ inserted.values = [("b", "3"), ("a", "2"), ("b", "1")]
    ∧ inserted.findings.map (fun finding => (finding.line, finding.category))
      = [(some 2, .trailingWhitespace), (some 2, .malformedLine), (some 3, .keyOrder),
        (some 4, .duplicateKey)] := by
  intro options inserted
  have hfeed : '\n' ∉ "oops ".toList := by decide
  have hverdict : lineVerdict options.indentUnit.toList "oops ".toList = .malformed := by decide
  obtain ⟨hkeys, hvalues, -⟩ := line_without_pair_affects_only_itself options []
    "\"b\": \"1\"" "oops " "\"a\": \"2\"\n\"b\": \"3\"" "en" hfeed (.inr hverdict)
  exact ⟨hfeed, hverdict, hkeys.trans (by decide +kernel), hvalues.trans (by decide +kernel),
    by decide +kernel⟩

end Catalog

end CatalogLint
