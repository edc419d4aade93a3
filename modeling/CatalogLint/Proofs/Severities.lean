import CatalogLint.Proofs.Run.Phases

/-! # The severity of a rule

    Findings are made in many places, each with a severity written next to it.  All of
    them agree on one severity for each rule (`Category.severity`), so what a finding
    weighs can be told from its rule: in whatever a run comes to, and in what the check of
    a single catalog comes to (`RunOutcome.Reached.weighed`). -/

namespace CatalogLint

/-- The severity of a rule. -/
def Category.severity : Category → Severity
  | .trailingWhitespace | .untrimmedValue | .keyOrder | .forbiddenPattern
  | .untranslatedText | .unusedKey => .warning
  | _ => .error

variable {options : Options} {compiled : List (String × List CompiledPattern)}
variable {finding made : Finding}

namespace Finding

/-- The finding weighs what its rule does. -/
def Weighed (finding : Finding) : Prop :=
  finding.severity = finding.category.severity

/-- A place does not change what a finding weighs. -/
theorem Weighed.atLine (h : finding.Weighed) (line : Nat) : (finding.atLine line).Weighed :=
  h

/-- A file does not change what a finding weighs. -/
theorem Weighed.inFile (h : finding.Weighed) (file : String) : (finding.inFile file).Weighed :=
  h

variable {condition : Prop} [Decidable condition]

/-- A finding that is made on a condition weighs what it does when it is made. -/
theorem Weighed.of_mem_if (h : finding ∈ if condition then [made] else [])
    (hmade : made.Weighed) : finding.Weighed := by
  obtain ⟨-, hmem⟩ := List.mem_ite_nil_right.mp h
  rw [List.mem_singleton.mp hmem]
  exact hmade

/-- A finding that is made unless a condition holds weighs what it does when it is made. -/
theorem Weighed.of_mem_unless (h : finding ∈ if condition then [] else [made])
    (hmade : made.Weighed) : finding.Weighed := by
  obtain ⟨-, hmem⟩ := List.mem_ite_nil_left.mp h
  rw [List.mem_singleton.mp hmem]
  exact hmade

end Finding

open Finding

/-! ## Catalogs -/

namespace Catalog

variable {rules : Rules} {progress : Progress} {number : Nat} {key value : String}

/-- The order of keys is a matter of warnings. -/
theorem weighed_of_mem_orderFindings (h : finding ∈ orderFindings options progress key) :
    finding.Weighed := by
  rw [orderFindings] at h
  split at h
  · cases h
  · split at h
    · exact Weighed.of_mem_if h rfl
    · cases h

/-- A tag without a partner is an error. -/
theorem weighed_of_mem_balanceFindings (h : finding ∈ balanceFindings key value) :
    finding.Weighed := by
  obtain ⟨issue, -, rfl⟩ := List.mem_map.mp h
  cases issue with
  | unclosed tag => rfl
  | unopened tag => rfl

/-- What is reported about a pair weighs what its rule does. -/
theorem weighed_of_mem_pairFindings (h : finding ∈ pairFindings rules progress key value) :
    finding.Weighed := by
  simp only [pairFindings, List.mem_append] at h
  rcases h with ((((((hcharset | hprefix) | htrim) | hempty) | hduplicate) | horder)
    | hforbidden) | hbalance
  · exact Weighed.of_mem_unless hcharset rfl
  · exact Weighed.of_mem_if hprefix rfl
  · exact Weighed.of_mem_unless htrim rfl
  · exact Weighed.of_mem_if hempty rfl
  · exact Weighed.of_mem_if hduplicate rfl
  · exact weighed_of_mem_orderFindings horder
  · obtain ⟨pattern, -, rfl⟩ := List.mem_map.mp hforbidden
    rfl
  · exact weighed_of_mem_balanceFindings hbalance

/-- What is reported about the shape of a line weighs what its rule does. -/
theorem weighed_of_mem_lineFindings {indent line : List Char}
    (h : finding ∈ lineFindings indent line) : finding.Weighed := by
  rcases List.mem_append.mp h with hend | hshape
  · exact Weighed.of_mem_if hend rfl
  · exact Weighed.of_mem_if hshape rfl

/-- What is reported about a catalog weighs what its rule does. -/
theorem weighed_of_mem_check {content language : String}
    (h : finding ∈ (check options compiled content language).findings) : finding.Weighed := by
  obtain ⟨before, place, line, -, hline⟩ := of_mem_checkLines h
  obtain ⟨reported, rfl, hshape | ⟨key, value, -, hpair⟩⟩ := of_mem_findingsAt hline
  · exact (weighed_of_mem_lineFindings hshape).atLine place
  · exact (weighed_of_mem_pairFindings hpair).atLine place

end Catalog

/-! ## Templates and coherence -/

/-- What is reported about a template weighs what its rule does. -/
theorem Template.weighed_of_mem_fileFindings {known : KnownKeys} {file : SourceFile}
    (h : finding ∈ fileFindings options known file) : finding.Weighed := by
  rcases List.mem_append.mp h with hreferences | hliteral
  · rcases List.mem_append.mp hreferences with hkeys | hmalformed
    · rcases List.mem_append.mp hkeys with hmixed | hunknown
      · obtain ⟨found, -, rfl⟩ := List.mem_map.mp hmixed
        rfl
      · obtain ⟨reference, -, rfl⟩ := List.mem_map.mp hunknown
        rfl
    · obtain ⟨found, -, rfl⟩ := List.mem_map.mp hmalformed
      rfl
  · obtain ⟨-, hmem⟩ := List.mem_ite_nil_right.mp hliteral
    obtain ⟨found, -, rfl⟩ := List.mem_map.mp hmem
    rfl

/-- The rules of the comparison of catalogs are about errors. -/
theorem severity_of_isCoherenceRule {rule : Category}
    (h : Coherence.isCoherenceRule rule = true) : rule.severity = .error := by
  cases rule <;> first | rfl | exact nomatch h

/-- What is reported about coherence weighs what its rule does. -/
theorem Coherence.weighed_of_mem_checkAll {parsed : List ParsedCatalog}
    (h : finding ∈ checkAll parsed) : finding.Weighed := by
  obtain ⟨herror, hrule⟩ := of_mem_checkAll h
  exact herror.trans (severity_of_isCoherenceRule hrule).symm

/-! ## Outcomes -/

/-- What a run comes to, and what the check of a single catalog comes to, however patterns are
    read. -/
inductive RunOutcome.Reached : RunOutcome → Prop where
  | run {read? : PatternReader} {options : Options} {catalogs templates : List SourceFile}
      {policy : UnusedKeyPolicy} {outcome : RunOutcome}
      (h : runOn read? options catalogs templates policy = .ok outcome) : Reached outcome
  | file {read? : PatternReader} {options : Options} {path : String} {files : FileSystem}
      {outcome : RunOutcome} (h : validateFile read? options path files = .ok outcome) :
      Reached outcome

/-- Whatever a run reports weighs what its rule does. -/
theorem Reported.weighed {catalogs templates : List SourceFile} {policy : UnusedKeyPolicy}
    (h : Reported options compiled catalogs templates policy finding) : finding.Weighed := by
  cases h with
  | catalog _ hmem =>
      obtain ⟨reported, hreported, rfl⟩ := List.mem_map.mp hmem
      exact (Catalog.weighed_of_mem_check hreported).inFile _
  | language hmem =>
      obtain ⟨language, -, rfl⟩ := List.mem_map.mp hmem
      rfl
  | coherence hmem => exact Coherence.weighed_of_mem_checkAll hmem
  | template _ hmem => exact Template.weighed_of_mem_fileFindings hmem
  | @policy unused hmem =>
      have hwarning := policy.warns unused finding hmem
      rw [Finding.Weighed, hwarning.severity, hwarning.category]
      rfl

/-- **The rule of a finding says what it weighs**, whatever was checked. -/
theorem RunOutcome.Reached.weighed {outcome : RunOutcome} (h : outcome.Reached)
    (hmem : finding ∈ outcome.findings) : finding.Weighed := by
  cases h with
  | run hrun =>
      obtain ⟨compiled, -, rfl⟩ := of_runOn_eq_ok hrun
      exact (reported_of_mem_findings hmem).weighed
  | file hfile =>
      obtain ⟨content, compiled, hfindings⟩ := findings_of_validateFile_eq_ok hfile
      rw [hfindings] at hmem
      obtain ⟨reported, hreported, rfl⟩ := List.mem_map.mp hmem
      exact (Catalog.weighed_of_mem_check hreported).inFile _

end CatalogLint
