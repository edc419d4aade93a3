import CatalogLint.Proofs.Catalog.Keys
import CatalogLint.Proofs.Catalog.Lines

/-! # The pairs of a catalog

    Lines without a pair bring nothing to what is known of a catalog, and nothing is reported
    about them but their shape.  So what the check comes to can be told from the pairs and
    the numbers of their lines (`pairLines`): what is known is what the pairs bring
    (`checkLines_snd_eq_recordAll`), and what is reported under a rule other than those about
    shapes is reported about the pairs (`filter_checkLines`).

    A pair either is the first of its key or repeats it (`PairLine.Repeats`).  The first ones
    are the keys of the catalog (`map_key_firsts`), and each of the others is one error
    (`filter_duplicateKey_pairReports`): keys, values and errors stay in step
    (`keys_values_and_repetitions_stay_in_step`). -/

namespace CatalogLint.Catalog

open Finding

/-! ## Pairs and their lines -/

/-- A pair of a catalog, with the number of its line. -/
structure PairLine where
  number : Nat
  key : String
  value : String
  deriving DecidableEq, Repr

/-- The pair on a line, if there is one. -/
def LineVerdict.pairAt (number : Nat) : LineVerdict → Option PairLine
  | .pair key value => some ⟨number, key, value⟩
  | _ => none

/-- The pairs on some lines, which are numbered from the given number on. -/
def pairsFrom (indent : List Char) (number : Nat) (lines : List (List Char)) : List PairLine :=
  (lines.zipIdx number).filterMap fun line => (lineVerdict indent line.1).pairAt line.2

/-- The pairs of the text of a catalog, in the order of its lines. -/
def pairLines (options : Options) (content : String) : List PairLine :=
  pairsFrom options.indentUnit.toList 1 (content.toList.splitOn '\n')

/-- The key and the value of a pair. -/
def PairLine.entry (pair : PairLine) : String × String :=
  (pair.key, pair.value)

variable {rules : Rules} {pairs : List PairLine} {pair last : PairLine}

/-- The pairs on one more line in front. -/
theorem pairsFrom_cons (indent : List Char) (number : Nat) (line : List Char)
    (rest : List (List Char)) :
    pairsFrom indent number (line :: rest)
      = ((lineVerdict indent line).pairAt number).toList ++ pairsFrom indent (number + 1) rest := by
  rw [pairsFrom, List.zipIdx_cons, List.filterMap_cons]
  cases (lineVerdict indent line).pairAt number with
  | none => rfl
  | some pair => rfl

/-- Pairs come in the order of their lines. -/
def InLineOrder (pairs : List PairLine) : Prop :=
  pairs.Pairwise (·.number < ·.number)

/-- The pair on a line has the number of the line. -/
theorem LineVerdict.number_of_pairAt_eq_some {verdict : LineVerdict} {number : Nat}
    (h : verdict.pairAt number = some pair) : pair.number = number := by
  cases verdict with
  | skip => cases h
  | malformed => cases h
  | pair key value => cases h; rfl

/-- The pairs on some lines come in the order of the lines. -/
theorem inLineOrder_pairsFrom (indent : List Char) (number : Nat) (lines : List (List Char)) :
    InLineOrder (pairsFrom indent number lines) := by
  have hnumbers : (lines.zipIdx number).Pairwise fun first second => first.2 < second.2 := by
    rw [← List.pairwise_map, List.zipIdx_map_snd]
    exact List.pairwise_lt_range'
  rw [InLineOrder, pairsFrom, List.pairwise_filterMap]
  refine hnumbers.imp fun hlt pair hpair later hlater => ?_
  rw [LineVerdict.number_of_pairAt_eq_some hpair, LineVerdict.number_of_pairAt_eq_some hlater]
  exact hlt

/-- The pairs of a text come in the order of its lines. -/
theorem inLineOrder_pairLines (options : Options) (content : String) :
    InLineOrder (pairLines options content) :=
  inLineOrder_pairsFrom _ _ _

/-- The pairs before the last one are in the order of their lines, too. -/
theorem InLineOrder.of_concat (h : InLineOrder (pairs ++ [last])) : InLineOrder pairs :=
  (List.pairwise_append.mp h).1

/-- A pair in front of the last one has a smaller number. -/
theorem InLineOrder.number_lt_last (h : InLineOrder (pairs ++ [last])) (hmem : pair ∈ pairs) :
    pair.number < last.number :=
  (List.pairwise_append.mp h).2.2 pair hmem last (List.mem_singleton_self last)

/-- No pair has a greater number than the last one. -/
theorem InLineOrder.number_le_last (h : InLineOrder (pairs ++ [last]))
    (hmem : pair ∈ pairs ++ [last]) : pair.number ≤ last.number := by
  rcases List.mem_append.mp hmem with hbefore | heq
  · exact Nat.le_of_lt (h.number_lt_last hbefore)
  · exact Nat.le_of_eq (congrArg PairLine.number (List.mem_singleton.mp heq))

/-- A pair with a smaller number than some pair is in front of the last one. -/
theorem InLineOrder.mem_of_lt {earlier : PairLine} (h : InLineOrder (pairs ++ [last]))
    (hmem : pair ∈ pairs ++ [last]) (hearlier : earlier ∈ pairs ++ [last])
    (hlt : earlier.number < pair.number) : earlier ∈ pairs := by
  rcases List.mem_append.mp hearlier with hbefore | heq
  · exact hbefore
  · have hle := h.number_le_last hmem
    rw [List.mem_singleton.mp heq] at hlt
    omega

/-! ## What is known, and what is reported -/

/-- What is known after some lines is what the pairs on them bring. -/
theorem checkLines_snd_eq_recordAll (rules : Rules) (progress : Progress) (number : Nat)
    (lines : List (List Char)) :
    (checkLines rules progress number lines).2
      = progress.recordAll
        ((pairsFrom rules.options.indentUnit.toList number lines).map PairLine.entry) := by
  induction lines generalizing progress number with
  | nil => rfl
  | cons line rest ih =>
      rw [pairsFrom_cons, checkLines]
      dsimp only
      rw [ih]
      cases lineVerdict rules.options.indentUnit.toList line with
      | skip => rfl
      | malformed => rfl
      | pair key value => rfl

/-- What is reported about pairs, one after the other. -/
def pairReports (rules : Rules) : Progress → List PairLine → List Finding
  | _, [] => []
  | progress, pair :: rest =>
      (pairFindings rules progress pair.key pair.value).map (·.atLine pair.number)
        ++ pairReports rules (progress.record pair.key pair.value) rest

/-- What is reported about one more pair depends on what the pairs before it bring. -/
theorem pairReports_concat (rules : Rules) (progress : Progress) (pairs : List PairLine)
    (last : PairLine) :
    pairReports rules progress (pairs ++ [last])
      = pairReports rules progress pairs
        ++ (pairFindings rules (progress.recordAll (pairs.map PairLine.entry)) last.key
            last.value).map (·.atLine last.number) := by
  induction pairs generalizing progress with
  | nil => exact List.append_nil _
  | cons pair rest ih =>
      rw [List.cons_append, pairReports, ih, pairReports, List.append_assoc]
      rfl

/-- Giving findings a line does not change which of them come from a rule. -/
theorem filter_map_atLine (rule : Category) (number : Nat) (findings : List Finding) :
    (findings.map (·.atLine number)).filter (·.category = rule)
      = (findings.filter (·.category = rule)).map (·.atLine number) :=
  List.filter_map

/-- What is reported about some lines under a rule that is not about their shape is reported
    about the pairs on them. -/
theorem filter_checkLines (rule : Category) (hblank : rule ≠ .trailingWhitespace)
    (hmalformed : rule ≠ .malformedLine) (rules : Rules) (progress : Progress) (number : Nat)
    (lines : List (List Char)) :
    (checkLines rules progress number lines).1.filter (·.category = rule)
      = (pairReports rules progress
          (pairsFrom rules.options.indentUnit.toList number lines)).filter (·.category = rule) := by
  induction lines generalizing progress number with
  | nil => rfl
  | cons line rest ih =>
      have hshape : (lineFindings rules.options.indentUnit.toList line).filter
          (·.category = rule) = [] := by
        refine List.filter_eq_nil_iff.mpr fun finding hmem hrule => ?_
        rw [decide_eq_true_iff] at hrule
        rcases of_mem_lineFindings hmem with heq | heq
        · exact hblank (hrule.symm.trans heq)
        · exact hmalformed (hrule.symm.trans heq)
      rw [pairsFrom_cons, checkLines]
      dsimp only
      rw [List.filter_append, ih, findingsAt, filter_map_atLine, List.filter_append, hshape,
        List.nil_append]
      cases lineVerdict rules.options.indentUnit.toList line with
      | skip => rfl
      | malformed => rfl
      | pair key value =>
          show _ = (pairReports rules progress (⟨number, key, value⟩ :: _)).filter _
          rw [pairReports, List.filter_append, filter_map_atLine]
          rfl

/-! ## First pairs and repetitions -/

/-- The key of a pair occurs on an earlier line. -/
def PairLine.Repeats (pairs : List PairLine) (pair : PairLine) : Prop :=
  ∃ earlier ∈ pairs, earlier.number < pair.number ∧ earlier.key = pair.key

instance (pairs : List PairLine) (pair : PairLine) : Decidable (pair.Repeats pairs) :=
  inferInstanceAs (Decidable (∃ earlier ∈ pairs, _))

/-- The first pair of each key. -/
def firsts (pairs : List PairLine) : List PairLine :=
  pairs.filter fun pair => ¬ pair.Repeats pairs

/-- The pairs with a key that has occurred before. -/
def repetitions (pairs : List PairLine) : List PairLine :=
  pairs.filter fun pair => pair.Repeats pairs

/-- Every pair is the first of its key or repeats it. -/
theorem length_firsts_add_length_repetitions (pairs : List PairLine) :
    (firsts pairs).length + (repetitions pairs).length = pairs.length := by
  have hsplit := @List.length_eq_length_filter_add _ pairs fun pair => decide (pair.Repeats pairs)
  rw [hsplit, Nat.add_comm, firsts, repetitions]
  simp only [decide_not]

/-- A later pair is not what an earlier one repeats. -/
theorem repeats_concat_of_mem (h : InLineOrder (pairs ++ [last])) (hmem : pair ∈ pairs) :
    pair.Repeats (pairs ++ [last]) ↔ pair.Repeats pairs := by
  constructor
  · rintro ⟨earlier, hearlier, hlt, hkey⟩
    exact ⟨earlier, h.mem_of_lt (List.mem_append_left _ hmem) hearlier hlt, hlt, hkey⟩
  · rintro ⟨earlier, hearlier, hlt, hkey⟩
    exact ⟨earlier, List.mem_append_left _ hearlier, hlt, hkey⟩

/-- The last pair repeats a key exactly if there has been a pair of the key. -/
theorem repeats_concat_last (h : InLineOrder (pairs ++ [last])) :
    last.Repeats (pairs ++ [last]) ↔ last.key ∈ pairs.map (·.key) := by
  rw [List.mem_map]
  constructor
  · rintro ⟨earlier, hearlier, hlt, hkey⟩
    exact ⟨earlier, h.mem_of_lt List.mem_concat_self hearlier hlt, hkey⟩
  · rintro ⟨earlier, hearlier, hkey⟩
    exact ⟨earlier, List.mem_append_left _ hearlier, h.number_lt_last hearlier, hkey⟩

/-- What is picked out of a list with one more item at its end, if the item does not matter
    for those before it. -/
theorem filter_concat {α : Type} {p q : α → Prop} [DecidablePred p] [DecidablePred q]
    {items : List α} (h : ∀ item ∈ items, p item ↔ q item) (last : α) :
    (items ++ [last]).filter (fun item => p item)
      = items.filter (fun item => q item) ++ if p last then [last] else [] := by
  have hbefore : items.filter (fun item => p item) = items.filter fun item => q item :=
    List.filter_congr fun item hmem => by simp only [h item hmem]
  rw [List.filter_append, hbefore, List.filter_cons, List.filter_nil]
  simp only [decide_eq_true_eq]

/-- One more pair is among the first ones if its key is new. -/
theorem firsts_concat (h : InLineOrder (pairs ++ [last])) :
    firsts (pairs ++ [last])
      = firsts pairs ++ if last.key ∈ pairs.map (·.key) then [] else [last] := by
  rw [firsts, filter_concat fun pair hmem => not_congr (repeats_concat_of_mem h hmem)]
  simp only [repeats_concat_last h, ite_not, firsts]

/-- One more pair is among the repetitions if its key is not new. -/
theorem repetitions_concat (h : InLineOrder (pairs ++ [last])) :
    repetitions (pairs ++ [last])
      = repetitions pairs ++ if last.key ∈ pairs.map (·.key) then [last] else [] := by
  rw [repetitions, filter_concat fun pair hmem => repeats_concat_of_mem h hmem]
  simp only [repeats_concat_last h, repetitions]

/-- The keys of the first pairs are the keys of all pairs, each once. -/
theorem map_key_firsts (h : InLineOrder pairs) :
    (firsts pairs).map (·.key) = (pairs.map (·.key)).eraseDups := by
  induction pairs using List.reverseRecOn with
  | nil => rfl
  | append_singleton pairs last ih =>
      rw [firsts_concat h, List.map_append, ih h.of_concat, List.map_append, List.map_singleton,
        eraseDups_concat]
      split
      · rw [List.map_nil, List.append_nil]
      · rfl

/-- The keys that are listed after some pairs are those of the first pairs. -/
theorem ordered_recordAll_firsts (h : InLineOrder pairs) :
    (({} : Progress).recordAll (pairs.map PairLine.entry)).keys.ordered
      = (firsts pairs).map (·.key) := by
  rw [map_key_firsts h, Progress.ordered_recordAll, List.map_map]
  rfl

/-- A key is in the set after some pairs if it is the key of one of them. -/
theorem contains_recordAll_iff (pairs : List PairLine) (key : String) :
    (({} : Progress).recordAll (pairs.map PairLine.entry)).keys.contains key = true
      ↔ key ∈ pairs.map (·.key) := by
  rw [(Progress.agrees_recordAll _).contains_iff, Progress.ordered_recordAll, List.mem_eraseDups,
    List.map_map]
  rfl

/-! ## Repetitions are errors -/

/-- The error about a pair with a key that has occurred before. -/
def repetitionError (pair : PairLine) : Finding :=
  (Finding.error .duplicateKey ("Duplicate key: " ++ pair.key)).atLine pair.number

/-- **Repetitions are reported**, each at its line, and nothing else is reported as one. -/
theorem filter_duplicateKey_pairReports (h : InLineOrder pairs) :
    (pairReports rules {} pairs).filter (·.category = .duplicateKey)
      = (repetitions pairs).map repetitionError := by
  induction pairs using List.reverseRecOn with
  | nil => rfl
  | append_singleton pairs last ih =>
      rw [pairReports_concat, List.filter_append, ih h.of_concat, filter_map_atLine,
        filter_pairFindings, repetitions_concat h, List.map_append]
      dsimp only
      simp only [duplicateFindings, contains_recordAll_iff]
      split
      · rfl
      · rfl

/-! ## Keys, values and repetitions -/

/-- The value of a key is that of its last pair. -/
theorem getLast?_filter_entry (pairs : List PairLine) (key : String) :
    (((pairs.map PairLine.entry).filter (·.1 = key)).getLast?).map Prod.snd
      = ((pairs.filter (·.key = key)).getLast?).map (·.value) := by
  rw [List.filter_map, List.getLast?_map, Option.map_map]
  rfl

/-- What is known of a text is what its pairs bring. -/
theorem check_eq (options : Options) (compiled : List (String × List CompiledPattern))
    (content language : String) :
    let progress := ({} : Progress).recordAll ((pairLines options content).map PairLine.entry)
    (check options compiled content language).orderedKeys = progress.keys.ordered
      ∧ (check options compiled content language).values = progress.values := by
  have hprogress := checkLines_snd_eq_recordAll ⟨options, forbiddenFor compiled language⟩ {} 1
    (content.toList.splitOn '\n')
  exact ⟨congrArg (·.keys.ordered) hprogress, congrArg (·.values) hprogress⟩

/-- The keys of a catalog are those of the first pairs. -/
theorem orderedKeys_check (options : Options) (compiled : List (String × List CompiledPattern))
    (content language : String) :
    (check options compiled content language).orderedKeys
      = (firsts (pairLines options content)).map (·.key) := by
  rw [(check_eq options compiled content language).1,
    ordered_recordAll_firsts (inLineOrder_pairLines options content)]

/-- What is reported about a text under a rule that is not about the shape of its lines is
    reported about its pairs. -/
theorem filter_findings_check (rule : Category) (hblank : rule ≠ .trailingWhitespace)
    (hmalformed : rule ≠ .malformedLine) (options : Options)
    (compiled : List (String × List CompiledPattern)) (content language : String) :
    (check options compiled content language).findings.filter (·.category = rule)
      = (pairReports ⟨options, forbiddenFor compiled language⟩ {}
          (pairLines options content)).filter (·.category = rule) :=
  filter_checkLines rule hblank hmalformed _ _ _ _

/-- **Keys, values and repetitions stay in step**, for every text and whatever is on record.
    The keys are those of the pairs, each once and in the order of their first pairs; there
    are values for the keys and for nothing else, and the value of a key is that of its last
    pair.  What is on record stays there, in front of what the check adds.  A pair whose key
    occurs on an earlier line is one error at its own line, and no other finding is one about
    a repeated key, so every pair is either a key or an error.  The flags say whether some of
    the findings that are added is an error, or a warning. -/
theorem keys_values_and_repetitions_stay_in_step (options : Options)
    (compiled : List (String × List CompiledPattern)) (content language : String)
    (record : Array Finding) :
    let pairs := pairLines options content
    let checked := (recordCheck options compiled content language record).1
    let extended := (recordCheck options compiled content language record).2
    -- keys and values
    checked.orderedKeys = (pairs.map (·.key)).eraseDups
    ∧ checked.orderedKeys.Nodup
    ∧ (∀ key, (checked.value? key).isSome = true ↔ key ∈ checked.orderedKeys)
    ∧ (∀ key, checked.value? key = ((pairs.filter (·.key = key)).getLast?).map (·.value))
    -- the record
    ∧ ∃ added, extended.toList = record.toList ++ added
      ∧ added.filter (·.category = .duplicateKey) = (repetitions pairs).map repetitionError
      ∧ pairs.length
        = checked.orderedKeys.length + (added.filter (·.category = .duplicateKey)).length
      ∧ (checked.hasError = true ↔ ∃ finding ∈ added, finding.severity = .error)
      ∧ (checked.hasWarning = true ↔ ∃ finding ∈ added, finding.severity = .warning) := by
  intro pairs checked extended
  have horder : InLineOrder pairs := inLineOrder_pairLines options content
  have hrecord := recordCheck_eq options compiled content language record
  have hchecked : checked = check options compiled content language := congrArg Prod.fst hrecord
  have hfirsts : checked.orderedKeys = (firsts pairs).map (·.key) := by
    rw [hchecked]
    exact orderedKeys_check options compiled content language
  have hkeys : checked.orderedKeys = (pairs.map (·.key)).eraseDups := by
    rw [hfirsts, map_key_firsts horder]
  have hvalues : ∀ key,
      checked.value? key = ((pairs.filter (·.key = key)).getLast?).map (·.value) := by
    intro key
    rw [Checked.value?, hchecked, (check_eq options compiled content language).2,
      lookup_values_recordAll, getLast?_filter_entry]
  have hrepetitions : checked.findings.filter (·.category = .duplicateKey)
      = (repetitions pairs).map repetitionError := by
    rw [hchecked, filter_findings_check .duplicateKey nofun nofun,
      filter_duplicateKey_pairReports horder]
  refine ⟨hkeys, hkeys ▸ nodup_eraseDups _, ?_, hvalues, checked.findings, ?_, hrepetitions, ?_,
    ?_, ?_⟩
  · intro key
    have hstep := Progress.inStep_empty.checkLines
      ⟨options, forbiddenFor compiled language⟩ 1 (content.toList.splitOn '\n')
    rw [hchecked]
    exact (hstep.values key).symm
  · rw [hchecked, ← Array.toList_appendList]
    exact congrArg (·.2.toList) hrecord
  · rw [hrepetitions, hfirsts, List.length_map, List.length_map,
      length_firsts_add_length_repetitions]
  · rw [Checked.hasError, List.any_eq_true]
    simp only [isError, beq_iff_eq]
  · rw [Checked.hasWarning, List.any_eq_true]
    simp only [isWarning, beq_iff_eq]

end CatalogLint.Catalog
