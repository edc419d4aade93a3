import CatalogLint.Proofs.FirstOccurrences
import CatalogLint.Proofs.Severities
import CatalogLint.Report.Sarif

/-! # Logs agree with their findings

    A log lists a result for every finding and a rule for every category that occurs.  The
    table of rules is built along the findings, leaving out what has been seen before; what
    it comes to is the list of first occurrences (`map_category_sarifRules`).  The standard
    level of a rule is the severity of some finding of it (`exists_finding_of_mem_sarifRules`),
    and in an outcome all of them have the same (`logs_agree_with_their_findings`). -/

namespace CatalogLint.Report

variable {findings : List Finding} {seen : List Category} {rule : SarifRule}

/-! ## The table of rules -/

/-- Behind the categories seen before, the rules are those of the other categories, by first
    occurrence. -/
theorem map_category_go (seen : List Category) (findings : List Finding) :
    (sarifRules.go seen findings).map (·.category)
      = ((findings.map (·.category)).filter (· ∉ seen)).eraseDups := by
  induction findings generalizing seen with
  | nil => rfl
  | cons finding rest ih =>
      rw [sarifRules.go, List.map_cons, List.filter_cons]
      by_cases h : finding.category ∈ seen
      · rw [if_pos h, if_neg (by simpa using h), ih]
      · rw [if_neg h, if_pos (by simpa using h), List.map_cons, ih, List.eraseDups_cons,
          List.filter_filter]
        -- once it has been seen, the category of the finding is left out as well
        refine congrArg (fun others => finding.category :: List.eraseDups others) ?_
        refine List.filter_congr fun category _ => ?_
        rw [Bool.eq_iff_iff, decide_eq_true_iff, List.mem_cons, not_or, Bool.and_eq_true,
          Bool.not_eq_true', beq_eq_false_iff_ne, decide_eq_true_iff]

/-- **The rules of a log are the categories of its findings, by first occurrence.** -/
theorem map_category_sarifRules (findings : List Finding) :
    (sarifRules findings).map (·.category) = (findings.map (·.category)).eraseDups := by
  rw [sarifRules, map_category_go]
  refine congrArg List.eraseDups (List.filter_eq_self.mpr fun category _ => ?_)
  exact decide_eq_true List.not_mem_nil

/-- A category occurs exactly if a rule describes it. -/
theorem exists_rule_iff {category : Category} :
    (∃ rule ∈ sarifRules findings, rule.category = category)
      ↔ ∃ finding ∈ findings, finding.category = category := by
  rw [← List.mem_map, map_category_sarifRules, List.mem_eraseDups, List.mem_map]

/-- The identifiers of the rules are different from each other. -/
theorem nodup_ruleId_sarifRules (findings : List Finding) :
    ((sarifRules findings).map (·.category.ruleId)).Nodup := by
  have hids : (sarifRules findings).map (·.category.ruleId)
      = ((sarifRules findings).map (·.category)).map Category.ruleId := by
    rw [List.map_map]
    rfl
  rw [hids, map_category_sarifRules]
  exact (nodup_eraseDups _).map Category.ruleId_injective

/-- A rule can be told from its identifier. -/
theorem eq_of_mem_sarifRules {other : SarifRule} (h : rule ∈ sarifRules findings)
    (hother : other ∈ sarifRules findings)
    (hid : rule.category.ruleId = other.category.ruleId) : rule = other :=
  List.inj_on_of_nodup_map (nodup_ruleId_sarifRules findings) h hother hid

/-- Behind the categories seen before, a rule is made of a finding. -/
theorem exists_finding_of_mem_go (h : rule ∈ sarifRules.go seen findings) :
    ∃ source ∈ findings, source.category = rule.category ∧ source.severity = rule.level := by
  induction findings generalizing seen with
  | nil => exact nomatch h
  | cons finding rest ih =>
      have hlater : ∀ {seen}, rule ∈ sarifRules.go seen rest →
          ∃ source ∈ finding :: rest,
            source.category = rule.category ∧ source.severity = rule.level := by
        intro seen hmem
        obtain ⟨source, hsource, hrule⟩ := ih hmem
        exact ⟨source, List.mem_cons_of_mem finding hsource, hrule⟩
      rw [sarifRules.go] at h
      split at h
      · exact hlater h
      · rcases List.mem_cons.mp h with rfl | hmem
        · exact ⟨finding, List.mem_cons_self, rfl, rfl⟩
        · exact hlater hmem

/-- The standard level of a rule is the severity of some finding of it. -/
theorem exists_finding_of_mem_sarifRules (h : rule ∈ sarifRules findings) :
    ∃ source ∈ findings, source.category = rule.category ∧ source.severity = rule.level :=
  exists_finding_of_mem_go h

/-! ## Outcomes -/

/-- In an outcome the standard level of a rule is what the rule weighs. -/
theorem level_of_mem_sarifRules {outcome : RunOutcome} (houtcome : outcome.Reached)
    (h : rule ∈ sarifRules outcome.findings) : rule.level = rule.category.severity := by
  obtain ⟨finding, hmem, hcategory, hlevel⟩ := exists_finding_of_mem_sarifRules h
  rw [← hlevel, ← hcategory]
  exact houtcome.weighed hmem

/-- **Logs agree with their findings and with themselves.**  The log of any findings has one
    result for each of them, in the same order, with the identifier of its rule, its level and
    its message.  Its table of rules holds every category that occurs once, in the order of
    first occurrence; the identifiers are different from each other, so the identifier of
    a result names one rule.  In the outcome of a run, or of the check of a single catalog,
    findings of one category have the same severity, so the level of every result is
    the standard level of its rule. -/
theorem logs_agree_with_their_findings :
    (∀ findings : List Finding,
      let log := sarifLog findings
      log.results.map (fun result => (result.ruleId, result.level, result.message))
          = findings.map (fun finding =>
            (finding.category.ruleId, finding.severity, finding.message))
      ∧ log.rules.map (·.category) = (findings.map (·.category)).eraseDups
      ∧ (log.rules.map (·.category.ruleId)).Nodup
      ∧ ∀ result ∈ log.results,
          ∃! rule, rule ∈ log.rules ∧ rule.category.ruleId = result.ruleId)
    ∧ ∀ outcome : RunOutcome, outcome.Reached →
      let log := sarifLog outcome.findings
      (∀ first ∈ outcome.findings, ∀ second ∈ outcome.findings,
        first.category = second.category → first.severity = second.severity)
      ∧ ∀ result ∈ log.results, ∀ rule ∈ log.rules,
          rule.category.ruleId = result.ruleId → rule.level = result.level := by
  refine ⟨fun findings => ?_, fun outcome houtcome => ?_⟩
  · intro log
    refine ⟨List.map_map, map_category_sarifRules findings, nodup_ruleId_sarifRules findings, ?_⟩
    intro result hresult
    obtain ⟨finding, hmem, rfl⟩ := List.mem_map.mp hresult
    obtain ⟨rule, hrule, hcategory⟩ := exists_rule_iff.mpr ⟨finding, hmem, rfl⟩
    refine ⟨rule, ⟨hrule, congrArg Category.ruleId hcategory⟩, ?_⟩
    rintro other ⟨hother, hid⟩
    exact eq_of_mem_sarifRules hother hrule
      (hid.trans (congrArg Category.ruleId hcategory).symm)
  · intro log
    refine ⟨?_, ?_⟩
    · intro first hfirst second hsecond hcategory
      rw [houtcome.weighed hfirst, houtcome.weighed hsecond, hcategory]
    · intro result hresult rule hrule hid
      obtain ⟨finding, hmem, rfl⟩ := List.mem_map.mp hresult
      have hcategory : rule.category = finding.category := Category.ruleId_injective hid
      rw [level_of_mem_sarifRules houtcome hrule, hcategory]
      exact (houtcome.weighed hmem).symm

/-- A catalog with two values that are empty, keys out of order and no template: the log has
    five results under three rules, and the levels are the standard ones. -/
theorem log_of_two_empty_values :
    let catalog : SourceFile :=
      ⟨"en.json", "en.json", "\x7b\n\"B\": \"\",\n\"A\": \"\"\n\x7d"⟩
    ∃ outcome, runOn Pattern.read? {} [catalog] [] .warn = .ok outcome
      ∧ (sarifLog outcome.findings).results.map (fun result => (result.ruleId, result.level))
        = [("I18N006", .error), ("I18N006", .error), ("I18N008", .warning),
          ("I18N019", .warning), ("I18N019", .warning)]
      ∧ (sarifLog outcome.findings).rules.map (·.category.ruleId)
        = ["I18N006", "I18N008", "I18N019"]
      ∧ ∀ result ∈ (sarifLog outcome.findings).results,
          ∀ rule ∈ (sarifLog outcome.findings).rules,
            rule.category.ruleId = result.ruleId → rule.level = result.level := by
  intro catalog
  have hrun : runOn Pattern.read? {} [catalog] [] .warn
      = .ok (runCompiled ({} : Options).normalized [] [catalog] [] .warn) :=
    runOn_eq (compile_read?_eq_ok rfl rfl) ..
  refine ⟨_, hrun, ?_, ?_, (logs_agree_with_their_findings.2 _ (.run hrun)).2⟩
  · decide +kernel
  · decide +kernel

end CatalogLint.Report
