import CatalogLint.Proofs.Rules

/-! # The lines of a catalog one after the other

    The check of a catalog goes through its lines, reports on each, and keeps what is
    known so far.  What is known depends on the verdicts alone (`checkLines_snd`), and
    every finding is one about some line (`of_mem_checkLines`), at its number and under
    one of the rules of a catalog (`of_mem_checkFile`).  The numbers are those of the lines,
    in their order (`line_of_mem_checkLines`, `pairwise_line_checkLines`).  A check that goes
    on with a record leaves what is on record as it is (`recordCheck_eq`).

    If two runs report the same about pairs, as far as some rules are concerned, they do so
    about all lines and about whole files, and they keep the same of a file in any case
    (`restrict_checkFile`, `checkFile_fst`). -/

namespace CatalogLint.Catalog

open Finding

variable {rules rules' : Rules} {progress : Progress} {number : Nat} {keep : Category → Bool}

/-! ## What is known, and what is reported -/

/-- What is known after some lines is what their verdicts add to it, in order. -/
theorem checkLines_snd (rules : Rules) (progress : Progress) (number : Nat)
    (lines : List (List Char)) :
    (checkLines rules progress number lines).2
      = (lines.map (lineVerdict rules.options.indentUnit.toList)).foldl Progress.afterLine
        progress := by
  induction lines generalizing progress number with
  | nil => rfl
  | cons line rest ih =>
      rw [List.map_cons, List.foldl_cons]
      exact ih _ (number + 1)

/-- A finding about some lines is about one of them, with what is known before it. -/
theorem of_mem_checkLines {lines : List (List Char)} {finding : Finding}
    (h : finding ∈ (checkLines rules progress number lines).1) :
    ∃ before place line, line ∈ lines ∧ finding ∈ findingsAt rules before place line := by
  induction lines generalizing progress number with
  | nil => exact nomatch h
  | cons line rest ih =>
      rcases List.mem_append.mp h with hline | hrest
      · exact ⟨progress, number, line, List.mem_cons_self, hline⟩
      · obtain ⟨before, place, other, hother, hfinding⟩ := ih hrest
        exact ⟨before, place, other, List.mem_cons_of_mem line hother, hfinding⟩

/-- A finding at a line is about the shape of the line, or about the pair on it. -/
theorem of_mem_findingsAt {line : List Char} {finding : Finding}
    (h : finding ∈ findingsAt rules progress number line) :
    ∃ reported : Finding, reported.atLine number = finding
      ∧ (reported ∈ lineFindings rules.options.indentUnit.toList line
        ∨ ∃ key value, lineVerdict rules.options.indentUnit.toList line = .pair key value
          ∧ reported ∈ pairFindings rules progress key value) := by
  obtain ⟨reported, hmem, heq⟩ := List.mem_map.mp h
  refine ⟨reported, heq, ?_⟩
  rcases List.mem_append.mp hmem with hline | hpair
  · exact Or.inl hline
  · split at hpair
    · rename_i key value hverdict
      exact Or.inr ⟨key, value, hverdict, hpair⟩
    · exact nomatch hpair

/-- What is reported at a line comes under one of the rules of a catalog. -/
theorem isCatalogRule_of_mem_findingsAt {line : List Char} {finding : Finding}
    (h : finding ∈ findingsAt rules progress number line) :
    isCatalogRule finding.category = true := by
  obtain ⟨reported, rfl, hline | ⟨key, value, -, hpair⟩⟩ := of_mem_findingsAt h
  · show isCatalogRule reported.category = true
    rcases of_mem_lineFindings hline with hrule | hrule <;> rw [hrule] <;> rfl
  · exact (of_mem_pairFindings hpair).1

/-- What is reported at a line has the number of the line. -/
theorem line_of_mem_findingsAt {line : List Char} {finding : Finding}
    (h : finding ∈ findingsAt rules progress number line) : finding.line = some number := by
  obtain ⟨reported, -, rfl⟩ := List.mem_map.mp h
  rfl

/-- What is reported about some lines has the number of one of them. -/
theorem line_of_mem_checkLines {lines : List (List Char)} {finding : Finding}
    (h : finding ∈ (checkLines rules progress number lines).1) :
    ∃ place, finding.line = some place ∧ number ≤ place ∧ place < number + lines.length := by
  induction lines generalizing progress number with
  | nil => exact nomatch h
  | cons line rest ih =>
      rw [List.length_cons]
      rcases List.mem_append.mp h with hline | hrest
      · exact ⟨number, line_of_mem_findingsAt hline, by omega, by omega⟩
      · obtain ⟨place, hplace, hfirst, hlast⟩ := ih hrest
        exact ⟨place, hplace, by omega, by omega⟩

/-- Lines are reported on one after the other: the numbers never decrease. -/
theorem pairwise_line_checkLines (rules : Rules) (progress : Progress) (number : Nat)
    (lines : List (List Char)) :
    (checkLines rules progress number lines).1.Pairwise fun first second =>
      ∀ m n, first.line = some m → second.line = some n → m ≤ n := by
  induction lines generalizing progress number with
  | nil => exact List.Pairwise.nil
  | cons line rest ih =>
      rw [checkLines]
      refine List.pairwise_append.mpr ⟨?_, ih _ (number + 1), ?_⟩
      · refine List.pairwise_of_forall_mem_list ?_
        intro first hfirst second hsecond m n hm hn
        rw [line_of_mem_findingsAt hfirst] at hm
        rw [line_of_mem_findingsAt hsecond] at hn
        cases hm
        cases hn
        exact Nat.le_refl number
      · intro first hfirst second hsecond m n hm hn
        obtain ⟨place, hplace, hafter, -⟩ := line_of_mem_checkLines hsecond
        rw [line_of_mem_findingsAt hfirst] at hm
        rw [hplace] at hn
        cases hm
        cases hn
        omega

/-- A text is checked line by line, and what is known at the end is handed out. -/
theorem checkText_eq (rules : Rules) (content : String) :
    checkText rules content
      = let checked := checkLines rules {} 1 (content.toList.splitOn '\n')
        ⟨checked.1, checked.2.keys.ordered, checked.2.values⟩ :=
  rfl

/-- Some lines put their findings behind those of a record, one line after the other. -/
theorem foldl_recordLine (rules : Rules) (record : Array Finding) (progress : Progress)
    (number : Nat) (lines : List (List Char)) :
    let state := (lines.zipIdx number).foldl (recordLine rules) (record, progress)
    state.1.toList = record.toList ++ (checkLines rules progress number lines).1
      ∧ state.2 = (checkLines rules progress number lines).2 := by
  induction lines generalizing record progress number with
  | nil => exact ⟨(List.append_nil _).symm, rfl⟩
  | cons line rest ih =>
      obtain ⟨hfindings, hprogress⟩ := ih (record ++ findingsAt rules progress number line)
        (progress.afterLine (lineVerdict rules.options.indentUnit.toList line)) (number + 1)
      refine ⟨?_, hprogress⟩
      rw [Array.toList_appendList, List.append_assoc] at hfindings
      exact hfindings

/-- **A check puts its findings behind those of a record**, whatever the record holds, and
    gives what it gives without a record. -/
theorem recordCheck_eq (options : Options) (compiled : List (String × List CompiledPattern))
    (content language : String) (record : Array Finding) :
    recordCheck options compiled content language record
      = (check options compiled content language,
        record ++ (check options compiled content language).findings) := by
  obtain ⟨hfindings, hprogress⟩ := foldl_recordLine ⟨options, forbiddenFor compiled language⟩
    record {} 1 (content.toList.splitOn '\n')
  refine Prod.ext ?_ (Array.toList_inj.mp ?_)
  · simp only [recordCheck, recordText, hfindings, hprogress, ← Array.length_toList,
      List.drop_left]
    rfl
  · rw [Array.toList_appendList]
    exact hfindings

/-- The findings about a catalog file are those about its lines, with the name of the
    file. -/
theorem checkFile_snd (options : Options) (compiled : List (String × List CompiledPattern))
    (file : SourceFile) :
    (checkFile options compiled file).2
      = (checkLines ⟨options, forbiddenFor compiled file.stem⟩ {} 1
          (file.content.toList.splitOn '\n')).1.map (·.inFile file.name) :=
  rfl

/-- A finding about a catalog file is one about a line of it, with the name of the
    file. -/
theorem of_mem_checkFile {options : Options} {compiled : List (String × List CompiledPattern)}
    {file : SourceFile} {finding : Finding} (h : finding ∈ (checkFile options compiled file).2) :
    ∃ before place line reported, reported.inFile file.name = finding
      ∧ reported ∈ findingsAt ⟨options, forbiddenFor compiled file.stem⟩ before place line := by
  rw [checkFile_snd] at h
  obtain ⟨reported, hmem, heq⟩ := List.mem_map.mp h
  obtain ⟨before, place, line, -, hfinding⟩ := of_mem_checkLines hmem
  exact ⟨before, place, line, reported, heq, hfinding⟩

/-- What is reported about a catalog file comes under one of the rules of a catalog. -/
theorem isCatalogRule_of_mem_checkFile {options : Options}
    {compiled : List (String × List CompiledPattern)} {file : SourceFile} {finding : Finding}
    (h : finding ∈ (checkFile options compiled file).2) :
    isCatalogRule finding.category = true := by
  obtain ⟨before, place, line, reported, rfl, hmem⟩ := of_mem_checkFile h
  show isCatalogRule reported.category = true
  exact isCatalogRule_of_mem_findingsAt hmem

/-! ## Two runs over the same lines -/

/-- What is the same about pairs, as far as some rules go, is the same at a line. -/
theorem restrict_findingsAt (hindent : rules'.options.indentUnit = rules.options.indentUnit)
    (hpairs : ∀ progress key value, restrict keep (pairFindings rules' progress key value)
      = restrict keep (pairFindings rules progress key value))
    (progress : Progress) (number : Nat) (line : List Char) :
    restrict keep (findingsAt rules' progress number line)
      = restrict keep (findingsAt rules progress number line) := by
  rw [findingsAt, findingsAt, restrict_map (·.atLine number) (fun _ => rfl),
    restrict_map (·.atLine number) (fun _ => rfl), restrict_append, restrict_append, hindent]
  cases lineVerdict rules.options.indentUnit.toList line with
  | skip => rfl
  | malformed => rfl
  | pair key value => rw [hpairs progress key value]

/-- What is the same about pairs, as far as some rules go, is the same about all lines:
    what is known before each line does not depend on what has been reported. -/
theorem restrict_checkLines (hindent : rules'.options.indentUnit = rules.options.indentUnit)
    (hpairs : ∀ progress key value, restrict keep (pairFindings rules' progress key value)
      = restrict keep (pairFindings rules progress key value))
    (progress : Progress) (number : Nat) (lines : List (List Char)) :
    restrict keep (checkLines rules' progress number lines).1
      = restrict keep (checkLines rules progress number lines).1 := by
  induction lines generalizing progress number with
  | nil => rfl
  | cons line rest ih =>
      rw [checkLines, checkLines, restrict_append, restrict_append,
        restrict_findingsAt hindent hpairs, ih, hindent]

/-- What is the same about pairs, as far as some rules go, is the same about a file. -/
theorem restrict_checkFile {options options' : Options}
    (hindent : options'.indentUnit = options.indentUnit)
    (hpairs : ∀ forbidden progress key value,
      restrict keep (pairFindings ⟨options', forbidden⟩ progress key value)
        = restrict keep (pairFindings ⟨options, forbidden⟩ progress key value))
    (compiled : List (String × List CompiledPattern)) (file : SourceFile) :
    restrict keep (checkFile options' compiled file).2
      = restrict keep (checkFile options compiled file).2 := by
  rw [checkFile_snd, checkFile_snd, restrict_map (·.inFile file.name) (fun _ => rfl),
    restrict_map (·.inFile file.name) (fun _ => rfl)]
  refine congrArg (List.map fun finding : Finding => finding.inFile file.name) ?_
  exact restrict_checkLines hindent (hpairs _) {} 1 (file.content.toList.splitOn '\n')

/-- What is kept of a catalog file depends on the options through the indent unit only. -/
theorem checkFile_fst {options options' : Options}
    (hindent : options'.indentUnit = options.indentUnit)
    (compiled : List (String × List CompiledPattern)) (file : SourceFile) :
    (checkFile options' compiled file).1 = (checkFile options compiled file).1 := by
  simp only [checkFile, check, checkText, checkLines_snd, hindent]

end CatalogLint.Catalog
