import CatalogLint.Catalog.Coherence
import CatalogLint.Template.Check
import Mathlib.Data.List.Nodup

/-! # The rules that findings come from

    Every check, every sweep and every comparison reports under rules of its own.  So
    the findings of a rule can be picked out of a list that several of them have added
    to: what belongs to the rule stays, and what belongs to another one goes.

    * `filter_pairFindings`, `filter_fileFindings`: the findings of each rule about one
      pair of a catalog and about one template;
    * `isCatalogRule`, `isTemplateRule`, `isCoherenceRule`: the rules that each phase of
      a run can report under;
    * `restrict`: the findings of some rules only.

    A rule can be told from its identifier (`ruleId_injective`) and from its name
    (`ofRuleName?_ruleName`). -/

namespace CatalogLint

namespace Category

/-- Every rule is listed. -/
theorem mem_all (rule : Category) : rule ∈ all := by
  cases rule <;> decide

/-- No two rules have the same identifier. -/
theorem ruleId_injective : Function.Injective ruleId := by
  intro first second h
  have hnodup : (all.map ruleId).Nodup := by decide
  exact List.inj_on_of_nodup_map hnodup (mem_all first) (mem_all second) h

/-- A rule is found by its name. -/
theorem ofRuleName?_ruleName (rule : Category) : ofRuleName? rule.ruleName = some rule := by
  cases rule <;> rfl

end Category

namespace Finding

variable {findings : List Finding} {rule other : Category}

/-- All findings of a list come from one rule. -/
def AllFrom (rule : Category) (findings : List Finding) : Prop :=
  ∀ finding ∈ findings, finding.category = rule

/-- A list without findings fits every rule. -/
theorem allFrom_nil (rule : Category) : AllFrom rule [] :=
  fun _ h => nomatch h

/-- Findings that are all made in one way come from the rule of that way. -/
theorem allFrom_map {α : Type} {make : α → Finding} (h : ∀ item, (make item).category = rule)
    (items : List α) : AllFrom rule (items.map make) := by
  intro finding hmem
  obtain ⟨item, -, rfl⟩ := List.mem_map.mp hmem
  exact h item

/-- Picking out a rule keeps the findings that come from it. -/
theorem AllFrom.filter_self (h : AllFrom rule findings) :
    findings.filter (·.category = rule) = findings := by
  refine List.filter_eq_self.mpr ?_
  intro finding hmem
  exact decide_eq_true (h finding hmem)

/-- Picking out a rule drops the findings that come from another one. -/
theorem AllFrom.filter_other (h : AllFrom rule findings) (hne : rule ≠ other) :
    findings.filter (·.category = other) = [] := by
  refine List.filter_eq_nil_iff.mpr ?_
  intro finding hmem
  rw [h finding hmem, decide_eq_true_iff]
  exact hne

/-- Findings of one rule are picked out all together or not at all. -/
theorem AllFrom.filter_eq (h : AllFrom rule findings) (other : Category) :
    findings.filter (·.category = other) = if rule = other then findings else [] := by
  split
  · rename_i heq
    rw [← heq]
    exact h.filter_self
  · rename_i hne
    exact h.filter_other hne

/-- A finding of a list is among those of its own rule. -/
theorem mem_filter_category {finding : Finding} (h : finding ∈ findings) :
    finding ∈ findings.filter (·.category = finding.category) :=
  List.mem_filter.mpr ⟨h, decide_eq_true rfl⟩

/-! ### Keeping some rules -/

variable {keep : Category → Bool}

/-- The findings of the rules that are kept. -/
def restrict (keep : Category → Bool) (findings : List Finding) : List Finding :=
  findings.filter (keep ·.category)

/-- A list is restricted part by part. -/
theorem restrict_append (keep : Category → Bool) (first second : List Finding) :
    restrict keep (first ++ second) = restrict keep first ++ restrict keep second :=
  List.filter_append ..

/-- The findings about several things are restricted one by one. -/
theorem restrict_flatMap {α : Type} (keep : Category → Bool) (findingsOf : α → List Finding)
    (items : List α) :
    restrict keep (items.flatMap findingsOf)
      = items.flatMap fun item => restrict keep (findingsOf item) :=
  List.filter_flatMap ..

/-- Giving findings a place does not change their rule. -/
theorem restrict_map (place : Finding → Finding)
    (h : ∀ finding, (place finding).category = finding.category) (keep : Category → Bool)
    (findings : List Finding) :
    restrict keep (findings.map place) = (restrict keep findings).map place := by
  rw [restrict, restrict, List.filter_map]
  simp only [Function.comp_def, h]

/-- Nothing goes if the rules of all findings are kept. -/
theorem restrict_eq_self (h : ∀ finding ∈ findings, keep finding.category = true) :
    restrict keep findings = findings :=
  List.filter_eq_self.mpr h

/-- Nothing is left of findings that all come from a rule that is not kept. -/
theorem AllFrom.restrict_eq_nil (h : AllFrom rule findings) (hkeep : keep rule = false) :
    restrict keep findings = [] := by
  refine List.filter_eq_nil_iff.mpr ?_
  intro finding hmem
  rw [h finding hmem, hkeep]
  exact Bool.false_ne_true

end Finding

open Finding

/-! ## The checks of a pair -/

namespace Catalog

variable {rules : Rules} {progress : Progress} {key value : String}

/-- The characters of a key are the only thing its check reports on. -/
theorem allFrom_charsetFindings (key : String) : AllFrom .keyCharset (charsetFindings key) := by
  rw [charsetFindings]
  split
  · exact allFrom_nil _
  · exact List.forall_mem_singleton.mpr rfl

/-- The start of a key is the only thing its check reports on. -/
theorem allFrom_prefixFindings (options : Options) (key : String) :
    AllFrom .keyPrefix (prefixFindings options key) := by
  rw [prefixFindings]
  split
  · exact List.forall_mem_singleton.mpr rfl
  · exact allFrom_nil _

/-- White space around a value is the only thing its check reports on. -/
theorem allFrom_trimFindings (key value : String) :
    AllFrom .untrimmedValue (trimFindings key value) := by
  rw [trimFindings]
  split
  · exact allFrom_nil _
  · exact List.forall_mem_singleton.mpr rfl

/-- Emptiness of a value is the only thing its check reports on. -/
theorem allFrom_emptyFindings (options : Options) (key value : String) :
    AllFrom .emptyValue (emptyFindings options key value) := by
  rw [emptyFindings]
  split
  · exact List.forall_mem_singleton.mpr rfl
  · exact allFrom_nil _

/-- A second occurrence of a key is the only thing its check reports on. -/
theorem allFrom_duplicateFindings (progress : Progress) (key : String) :
    AllFrom .duplicateKey (duplicateFindings progress key) := by
  rw [duplicateFindings]
  split
  · exact List.forall_mem_singleton.mpr rfl
  · exact allFrom_nil _

/-- The place of a key among the others is the only thing its check reports on. -/
theorem allFrom_orderFindings (options : Options) (progress : Progress) (key : String) :
    AllFrom .keyOrder (orderFindings options progress key) := by
  rw [orderFindings]
  split
  · exact allFrom_nil _
  · split
    · split
      · exact List.forall_mem_singleton.mpr rfl
      · exact allFrom_nil _
    · exact allFrom_nil _

/-- Forbidden patterns are the only thing their check reports on. -/
theorem allFrom_forbiddenFindings (forbidden : List CompiledPattern) (value : String) :
    AllFrom .forbiddenPattern (forbiddenFindings forbidden value) := by
  refine allFrom_map ?_ _
  intro _
  rfl

/-- A tag without a partner is either not closed or not opened. -/
theorem of_mem_balanceFindings {finding : Finding} (h : finding ∈ balanceFindings key value) :
    finding.category = .unclosedTag ∨ finding.category = .unopenedTag := by
  obtain ⟨issue, -, rfl⟩ := List.mem_map.mp h
  cases issue with
  | unclosed tag => exact Or.inl rfl
  | unopened tag => exact Or.inr rfl

/-- The check of tags reports under no other rule. -/
theorem filter_balanceFindings {rule : Category} (hunclosed : rule ≠ .unclosedTag)
    (hunopened : rule ≠ .unopenedTag) :
    (balanceFindings key value).filter (·.category = rule) = [] := by
  refine List.filter_eq_nil_iff.mpr ?_
  intro finding hmem
  rw [decide_eq_true_iff]
  rintro rfl
  exact (of_mem_balanceFindings hmem).elim hunclosed hunopened

/-- The findings of each rule about a pair are those of one check. -/
theorem filter_pairFindings (rules : Rules) (progress : Progress) (key value : String)
    (rule : Category) :
    (pairFindings rules progress key value).filter (·.category = rule)
      = match rule with
        | .keyCharset => charsetFindings key
        | .keyPrefix => prefixFindings rules.options key
        | .untrimmedValue => trimFindings key value
        | .emptyValue => emptyFindings rules.options key value
        | .duplicateKey => duplicateFindings progress key
        | .keyOrder => orderFindings rules.options progress key
        | .forbiddenPattern => forbiddenFindings rules.forbidden value
        | .unclosedTag | .unopenedTag =>
            (balanceFindings key value).filter (·.category = rule)
        | _ => [] := by
  simp only [pairFindings, List.filter_append, (allFrom_charsetFindings _).filter_eq,
    (allFrom_prefixFindings _ _).filter_eq, (allFrom_trimFindings _ _).filter_eq,
    (allFrom_emptyFindings _ _ _).filter_eq, (allFrom_duplicateFindings _ _).filter_eq,
    (allFrom_orderFindings _ _ _).filter_eq, (allFrom_forbiddenFindings _ _).filter_eq]
  cases rule <;>
    simp only [reduceCtorEq, if_true, if_false, List.nil_append, List.append_nil,
      filter_balanceFindings, ne_eq, not_false_eq_true]

/-- The rules of the check of a catalog on its own. -/
def isCatalogRule : Category → Bool
  | .trailingWhitespace | .malformedLine | .keyCharset | .keyPrefix | .untrimmedValue
  | .emptyValue | .duplicateKey | .keyOrder | .forbiddenPattern | .unclosedTag
  | .unopenedTag => true
  | _ => false

/-- What is reported about a pair comes under one of the rules of a catalog, and under
    none of those about the shape of a line. -/
theorem of_mem_pairFindings {finding : Finding}
    (h : finding ∈ pairFindings rules progress key value) :
    isCatalogRule finding.category = true ∧ finding.category ≠ .trailingWhitespace
      ∧ finding.category ≠ .malformedLine := by
  have hmem := mem_filter_category h
  rw [filter_pairFindings] at hmem
  cases hrule : finding.category <;> rw [hrule] at hmem
  all_goals first
    | exact absurd hmem List.not_mem_nil
    | exact ⟨rfl, nofun, nofun⟩

/-- What is reported about the shape of a line is white space at its end or that it is
    malformed. -/
theorem of_mem_lineFindings {indent line : List Char} {finding : Finding}
    (h : finding ∈ lineFindings indent line) :
    finding.category = .trailingWhitespace ∨ finding.category = .malformedLine := by
  rcases List.mem_append.mp h with hend | hshape
  · split at hend
    · rw [List.mem_singleton.mp hend]
      exact Or.inl rfl
    · exact nomatch hend
  · split at hshape
    · rw [List.mem_singleton.mp hshape]
      exact Or.inr rfl
    · exact nomatch hshape

end Catalog

/-! ## The sweeps over templates -/

namespace Template

/-- Mixed syntax is the only rule of its sweep. -/
theorem allFrom_mixedFindings (name : String) (text : List Char) :
    AllFrom .mixedTranslateSyntax (mixedFindings name text) := by
  refine allFrom_map ?_ _
  intro _
  rfl

/-- Unknown keys are the only rule of the comparison with the known keys. -/
theorem allFrom_unknownFindings (known : KnownKeys) (file : SourceFile) :
    AllFrom .unknownKey (unknownFindings known file) := by
  refine allFrom_map ?_ _
  intro _
  rfl

/-- Unquoted operands are the only rule of their sweep. -/
theorem allFrom_malformedFindings (name : String) (text : List Char) :
    AllFrom .malformedFilter (malformedFindings name text) := by
  refine allFrom_map ?_ _
  intro _
  rfl

/-- Literal text is the only rule of its sweeps. -/
theorem allFrom_literalFindings (exclusions : SortedSet) (name : String) (text : List Char) :
    AllFrom .untranslatedText (literalFindings exclusions name text) := by
  refine allFrom_map ?_ _
  intro _
  rfl

/-- The findings of each rule about a template are those of one sweep, or of the
    comparison with the known keys. -/
theorem filter_fileFindings (options : Options) (known : KnownKeys) (file : SourceFile)
    (rule : Category) :
    (fileFindings options known file).filter (·.category = rule)
      = match rule with
        | .mixedTranslateSyntax => mixedFindings file.name (visibleText file)
        | .unknownKey => unknownFindings known file
        | .malformedFilter => malformedFindings file.name (visibleText file)
        | .untranslatedText =>
            if options.checkTemplates then
              literalFindings options.exclusions file.name (visibleText file)
            else []
        | _ => [] := by
  have hliteral : AllFrom .untranslatedText
      (if options.checkTemplates then
        literalFindings options.exclusions file.name (visibleText file) else []) := by
    split
    · exact allFrom_literalFindings _ _ _
    · exact allFrom_nil _
  simp only [fileFindings, List.filter_append, (allFrom_mixedFindings _ _).filter_eq,
    (allFrom_unknownFindings _ _).filter_eq, (allFrom_malformedFindings _ _).filter_eq,
    hliteral.filter_eq]
  cases rule <;>
    simp only [reduceCtorEq, if_true, if_false, List.nil_append, List.append_nil]

/-- Among the findings about a template, those about unknown keys are the ones of the
    comparison with the known keys: no other sweep adds to them. -/
theorem filter_unknownKey_fileFindings (options : Options) (known : KnownKeys)
    (file : SourceFile) :
    (fileFindings options known file).filter (·.category = .unknownKey)
      = unknownFindings known file :=
  filter_fileFindings options known file .unknownKey

/-- The rules of the sweeps over a template and of the comparison with the known keys. -/
def isTemplateRule : Category → Bool
  | .mixedTranslateSyntax | .unknownKey | .malformedFilter | .untranslatedText => true
  | _ => false

/-- What is reported about a template comes under one of its rules. -/
theorem of_mem_fileFindings {options : Options} {known : KnownKeys} {file : SourceFile}
    {finding : Finding} (h : finding ∈ fileFindings options known file) :
    isTemplateRule finding.category = true := by
  have hmem := mem_filter_category h
  rw [filter_fileFindings] at hmem
  cases hrule : finding.category <;> rw [hrule] at hmem
  all_goals first
    | exact absurd hmem List.not_mem_nil
    | rfl

end Template

/-! ## The comparison of catalogs -/

namespace Coherence

/-- The rules of the comparison of catalogs. -/
def isCoherenceRule : Category → Bool
  | .missingKey | .extraKey | .markupMismatch => true
  | _ => false

/-- What the comparison of two catalogs reports is an error under one of its rules. -/
theorem of_mem_compareCatalogs {reference compared : ParsedCatalog} {finding : Finding}
    (h : finding ∈ compareCatalogs reference compared) :
    finding.severity = .error ∧ isCoherenceRule finding.category = true := by
  rcases List.mem_append.mp h with hkeys | hmarkup
  · rcases List.mem_append.mp hkeys with hmissing | hextra
    · obtain ⟨key, -, rfl⟩ := List.mem_map.mp hmissing
      exact ⟨rfl, rfl⟩
    · obtain ⟨key, -, rfl⟩ := List.mem_map.mp hextra
      exact ⟨rfl, rfl⟩
  · obtain ⟨key, -, hdiff⟩ := List.mem_flatMap.mp hmarkup
    obtain ⟨diff, -, rfl⟩ := List.mem_map.mp hdiff
    exact ⟨rfl, rfl⟩

/-- What the check of a group reports is an error under one of the rules of comparison. -/
theorem of_mem_checkGroup {catalogs : List ParsedCatalog} {finding : Finding}
    (h : finding ∈ checkGroup catalogs) :
    finding.severity = .error ∧ isCoherenceRule finding.category = true := by
  cases catalogs with
  | nil => exact nomatch h
  | cons reference others =>
      obtain ⟨compared, -, hfinding⟩ := List.mem_flatMap.mp h
      exact of_mem_compareCatalogs hfinding

/-- What the check of all groups reports is an error under one of the rules of
    comparison. -/
theorem of_mem_checkAll {catalogs : List ParsedCatalog} {finding : Finding}
    (h : finding ∈ checkAll catalogs) :
    finding.severity = .error ∧ isCoherenceRule finding.category = true := by
  obtain ⟨group, -, hfinding⟩ := List.mem_flatMap.mp h
  exact of_mem_checkGroup hfinding

end Coherence

end CatalogLint
