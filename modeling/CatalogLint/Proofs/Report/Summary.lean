import CatalogLint.Proofs.Severities
import CatalogLint.Report.Summary
import Mathlib.Algebra.GroupWithZero.Nat
import Mathlib.Data.List.Induction
import Mathlib.Data.String.Basic

/-! # The summary accounts for every finding

    The findings of a report are counted one after the other, each under the identifier and
    the name of its rule and its severity.  What one finding does to the counts says all about
    them:

    * it adds one to what is counted under its key, and nothing elsewhere
      (`total_countFinding`), so under any choice of keys the counts add up to the number of
      findings with such a key (`total_countByRule`);
    * it brings in its own key and no other (`mem_keys_countFinding`), and it keeps the keys in
      strict order (`sorted_countFinding`).

    A key stands for one rule (`RuleKey.of_inj`).  So the summary is a second count of what the
    reporter of a run has tallied on the way (`RunOutcome.Reached.tallies`), and the two come
    to the same (`summary_accounts_for_every_finding`). -/

namespace CatalogLint

namespace Report

/-! ## Keys -/

namespace RuleKey

variable {first second third : RuleKey}

/-- A key stands for one rule and one severity. -/
theorem of_inj {category category' : Category} {severity severity' : Severity} :
    of category severity = of category' severity'
      ↔ category = category' ∧ severity = severity' := by
  constructor
  · intro h
    exact ⟨Category.ruleId_injective (congrArg ruleId h), congrArg RuleKey.severity h⟩
  · rintro ⟨rfl, rfl⟩
    rfl

/-- No key comes before itself. -/
theorem Before.irrefl (key : RuleKey) : ¬ key.Before key := by
  rintro (hid | ⟨-, hname | ⟨-, herror, hwarning⟩⟩)
  · exact lt_irrefl _ hid
  · exact lt_irrefl _ hname
  · exact absurd (herror.symm.trans hwarning) (by decide)

/-- What comes before a key comes before those behind it. -/
theorem Before.trans (h : first.Before second) (h' : second.Before third) :
    first.Before third := by
  rcases h with hid | ⟨hid, hlater⟩
  · rcases h' with hid' | ⟨hid', -⟩
    · exact Or.inl (hid.trans hid')
    · exact Or.inl (hid.trans_eq hid')
  · rcases h' with hid' | ⟨hid', hlater'⟩
    · exact Or.inl (hid.trans_lt hid')
    · refine Or.inr ⟨hid.trans hid', ?_⟩
      rcases hlater with hname | ⟨hname, -, hwarning⟩
      · rcases hlater' with hname' | ⟨hname', -⟩
        · exact Or.inl (hname.trans hname')
        · exact Or.inl (hname.trans_eq hname')
      · rcases hlater' with hname' | ⟨-, herror, -⟩
        · exact Or.inl (hname.trans_lt hname')
        · exact absurd (herror.symm.trans hwarning) (by decide)

/-- Two keys are the same, or one comes before the other. -/
theorem before_trichotomy (first second : RuleKey) :
    first.Before second ∨ first = second ∨ second.Before first := by
  obtain ⟨id, name, severity⟩ := first
  obtain ⟨id', name', severity'⟩ := second
  rcases lt_trichotomy id id' with hid | rfl | hid
  · exact Or.inl (Or.inl hid)
  · rcases lt_trichotomy name name' with hname | rfl | hname
    · exact Or.inl (Or.inr ⟨rfl, Or.inl hname⟩)
    · cases severity with
      | error =>
          cases severity' with
          | error => exact Or.inr (Or.inl rfl)
          | warning => exact Or.inl (Or.inr ⟨rfl, Or.inr ⟨rfl, rfl, rfl⟩⟩)
      | warning =>
          cases severity' with
          | error => exact Or.inr (Or.inr (Or.inr ⟨rfl, Or.inr ⟨rfl, rfl, rfl⟩⟩))
          | warning => exact Or.inr (Or.inl rfl)
    · exact Or.inr (Or.inr (Or.inr ⟨rfl, Or.inl hname⟩))
  · exact Or.inr (Or.inr (Or.inl hid))

end RuleKey

/-! ## One more finding -/

variable {finding : Finding} {findings : List Finding} {entry : RuleCount}
variable {counts : List RuleCount} {key : RuleKey}

/-- What the counts under some of the keys add up to. -/
def total (chosen : RuleKey → Bool) (counts : List RuleCount) : Nat :=
  ((counts.filter (chosen ·.key)).map (·.count)).sum

/-- The first entry counts if its key is chosen. -/
theorem total_cons (chosen : RuleKey → Bool) (entry : RuleCount) (rest : List RuleCount) :
    total chosen (entry :: rest)
      = (if chosen entry.key then entry.count else 0) + total chosen rest := by
  rw [total, List.filter_cons]
  split
  · rfl
  · exact (Nat.zero_add _).symm

/-- **One more finding adds one under its own key**, and nothing elsewhere. -/
theorem total_countFinding (chosen : RuleKey → Bool) (finding : Finding)
    (counts : List RuleCount) :
    total chosen (countFinding finding counts)
      = total chosen counts + if chosen (ruleKey finding) then 1 else 0 := by
  have hnew : RuleCount.key ⟨finding.category, finding.severity, 1⟩ = ruleKey finding := rfl
  induction counts with
  | nil =>
      rw [countFinding, total_cons, hnew]
      exact Nat.add_comm _ _
  | cons entry rest ih =>
      rw [countFinding]
      split
      · rw [total_cons, hnew]
        exact Nat.add_comm _ _
      · split
        · rename_i hkey
          rw [total_cons, total_cons, hkey]
          show (if chosen entry.key then entry.count + 1 else 0) + _ = _
          split
          · omega
          · rfl
        · rw [total_cons, total_cons, ih, Nat.add_assoc]

/-- One more finding brings in its own key, and no other. -/
theorem mem_keys_countFinding :
    key ∈ (countFinding finding counts).map (·.key)
      ↔ key = ruleKey finding ∨ key ∈ counts.map (·.key) := by
  induction counts with
  | nil => exact List.mem_cons
  | cons entry rest ih =>
      rw [countFinding]
      split
      · exact List.mem_cons
      · split
        · rename_i hkey
          show key ∈ (entry :: rest).map (·.key) ↔ _
          rw [hkey]
          exact (or_iff_right_of_imp fun heq => List.mem_cons.mpr (Or.inl heq)).symm
        · rw [List.map_cons, List.map_cons, List.mem_cons, List.mem_cons, ih]
          exact or_left_comm

/-- **One more finding keeps the keys in strict order.** -/
theorem sorted_countFinding (h : (counts.map (·.key)).Pairwise RuleKey.Before)
    (finding : Finding) :
    ((countFinding finding counts).map (·.key)).Pairwise RuleKey.Before := by
  induction counts with
  | nil => exact List.pairwise_singleton _ _
  | cons entry rest ih =>
      rw [List.map_cons, List.pairwise_cons] at h
      rw [countFinding]
      split
      · rename_i hbefore
        refine List.pairwise_cons.mpr ⟨?_, List.pairwise_cons.mpr h⟩
        intro key hkey
        rcases List.mem_cons.mp hkey with rfl | hlater
        · exact hbefore
        · exact hbefore.trans (h.1 key hlater)
      · rename_i hbefore
        split
        · exact List.pairwise_cons.mpr h
        · rename_i hne
          refine List.pairwise_cons.mpr ⟨?_, ih h.2⟩
          intro key hkey
          rcases mem_keys_countFinding.mp hkey with rfl | hlater
          · -- the key is neither the one of the entry nor before it
            have horder := RuleKey.before_trichotomy (ruleKey finding) entry.key
            exact (horder.resolve_left hbefore).resolve_left hne
          · exact h.1 key hlater

/-! ## All findings -/

/-- The counts of the findings up to the last one, and then that one. -/
theorem countByRule_concat (findings : List Finding) (finding : Finding) :
    countByRule (findings ++ [finding]) = countFinding finding (countByRule findings) :=
  List.foldl_concat _ _ _ _

/-- **Under any choice of keys the counts add up to the number of findings.** -/
theorem total_countByRule (chosen : RuleKey → Bool) (findings : List Finding) :
    total chosen (countByRule findings) = findings.countP (chosen ∘ ruleKey) := by
  induction findings using List.reverseRecOn with
  | nil => rfl
  | append_singleton findings finding ih =>
      rw [countByRule_concat, total_countFinding, ih, List.countP_append, List.countP_singleton]
      rfl

/-- The keys of the counts are those of the findings. -/
theorem mem_keys_countByRule :
    key ∈ (countByRule findings).map (·.key) ↔ ∃ finding ∈ findings, ruleKey finding = key := by
  induction findings using List.reverseRecOn with
  | nil => exact iff_of_false nofun nofun
  | append_singleton findings finding ih =>
      rw [countByRule_concat, mem_keys_countFinding, ih]
      simp only [List.mem_append, List.mem_singleton, or_and_right, exists_or, exists_eq_left]
      rw [or_comm, eq_comm]

/-- The counts stand in the strict order of their keys. -/
theorem sorted_countByRule (findings : List Finding) :
    ((countByRule findings).map (·.key)).Pairwise RuleKey.Before := by
  induction findings using List.reverseRecOn with
  | nil => exact List.Pairwise.nil
  | append_singleton findings finding ih =>
      rw [countByRule_concat]
      exact sorted_countFinding ih finding

/-- In strict order the counts under one key are those of one entry. -/
theorem total_key_eq (h : (counts.map (·.key)).Pairwise RuleKey.Before) (hmem : entry ∈ counts) :
    total (· = entry.key) counts = entry.count := by
  induction counts with
  | nil => exact nomatch hmem
  | cons first rest ih =>
      rw [List.map_cons, List.pairwise_cons] at h
      have hlater : ∀ other ∈ rest, first.key ≠ other.key := by
        intro other hother heq
        refine RuleKey.Before.irrefl first.key ?_
        have hbefore := h.1 other.key (List.mem_map_of_mem hother)
        rwa [← heq] at hbefore
      rw [total_cons]
      rcases List.mem_cons.mp hmem with rfl | hrest
      · have hnone : rest.filter (fun other => decide (other.key = entry.key)) = [] := by
          rw [List.filter_eq_nil_iff]
          intro other hother
          rw [decide_eq_true_iff]
          exact (hlater other hother).symm
        rw [total, hnone, if_pos (decide_eq_true rfl)]
        rfl
      · rw [if_neg (by rw [decide_eq_true_iff]; exact hlater entry hrest), ih h.2 hrest,
          Nat.zero_add]

/-- The count of an entry is the number of findings of its rule and severity. -/
theorem count_of_mem_countByRule (h : entry ∈ countByRule findings) :
    entry.count = findings.countP fun finding =>
      finding.category = entry.category ∧ finding.severity = entry.severity := by
  rw [← total_key_eq (sorted_countByRule findings) h, total_countByRule]
  refine List.countP_congr fun finding _ => ?_
  rw [Function.comp_apply, decide_eq_true_iff, decide_eq_true_iff]
  exact RuleKey.of_inj

end Report

/-! ## The tallies of a run -/

/-- What a run, or the check of a single catalog, hands out as its tallies are the numbers of
    errors and of warnings in its record. -/
theorem RunOutcome.Reached.tallies {outcome : RunOutcome} (h : outcome.Reached) :
    outcome.statistics.errors = outcome.findings.countP Finding.isError
      ∧ outcome.statistics.warnings = outcome.findings.countP Finding.isWarning := by
  cases h with
  | run hrun =>
      obtain ⟨compiled, -, rfl⟩ := of_runOn_eq_ok hrun
      rw [statistics_runCompiled]
      exact ⟨rfl, rfl⟩
  | @file _ options path _ _ hfile =>
      obtain ⟨content, compiled, rfl⟩ := of_validateFile_eq_ok hfile
      obtain ⟨-, herrors, hwarnings, -⟩ := checkAlone_spec options compiled path content
      exact ⟨herrors, hwarnings⟩

namespace Report

/-- **The summary accounts for every finding.**  For any report the counts have an entry for
    each rule and severity that occur together, and no other; the entry holds the number of
    findings with that rule and severity; the entries stand in the strict order of their keys;
    and the counts add up to the number of findings.  In the report of a run, or of the check
    of a single catalog, the counts of errors add up to the tally of errors, and those of
    warnings to the tally of warnings. -/
theorem summary_accounts_for_every_finding :
    (∀ report : Report,
      let counts := countByRule report.findings
      (∀ category severity, .of category severity ∈ counts.map (·.key)
          ↔ ∃ finding ∈ report.findings,
            finding.category = category ∧ finding.severity = severity)
      ∧ (∀ entry ∈ counts, entry.count = report.findings.countP fun finding =>
          finding.category = entry.category ∧ finding.severity = entry.severity)
      ∧ (counts.map (·.key)).Pairwise RuleKey.Before
      ∧ (counts.map (·.count)).sum = report.findings.length)
    ∧ ∀ (createdAt : String) (outcome : RunOutcome), outcome.Reached →
      let report := Report.ofOutcome createdAt outcome
      let counts := countByRule report.findings
      ((counts.filter (·.severity = .error)).map (·.count)).sum = report.statistics.errors
      ∧ ((counts.filter (·.severity = .warning)).map (·.count)).sum
        = report.statistics.warnings := by
  refine ⟨fun report => ?_, fun createdAt outcome houtcome => ?_⟩
  · intro counts
    refine ⟨fun category severity => ?_, fun entry => count_of_mem_countByRule,
      sorted_countByRule report.findings, ?_⟩
    · rw [mem_keys_countByRule]
      exact exists_congr fun finding => and_congr_right fun _ => RuleKey.of_inj
    · have hall := total_countByRule (fun _ => true) report.findings
      rw [total, List.filter_true] at hall
      exact hall.trans (congrFun List.countP_true _)
  · intro report counts
    obtain ⟨herrors, hwarnings⟩ := houtcome.tallies
    have htotal := fun severity =>
      total_countByRule (fun key => key.severity = severity) outcome.findings
    exact ⟨(htotal .error).trans herrors.symm, (htotal .warning).trans hwarnings.symm⟩

/-- Two empty values, a key that is out of order and comes twice, and no template: four entries
    for six findings, and each severity adds up to its tally. -/
theorem summary_of_six_findings :
    let catalog : SourceFile :=
      ⟨"en.json", "en.json", "\"B\": \"\",\n\"A\": \"\",\n\"A\": \"x\""⟩
    ∃ outcome, runOn Pattern.read? {} [catalog] [] .warn = .ok outcome
      ∧ countByRule outcome.findings
        = [⟨.emptyValue, .error, 2⟩, ⟨.duplicateKey, .error, 1⟩, ⟨.keyOrder, .warning, 1⟩,
          ⟨.unusedKey, .warning, 2⟩]
      ∧ outcome.statistics.errors = 3 ∧ outcome.statistics.warnings = 3 := by
  intro catalog
  have hrun : runOn Pattern.read? {} [catalog] [] .warn
      = .ok (runCompiled ({} : Options).normalized [] [catalog] [] .warn) :=
    runOn_eq (compile_read?_eq_ok rfl rfl) ..
  have hcounts : countByRule
      (runCompiled ({} : Options).normalized [] [catalog] [] .warn).findings
        = [⟨.emptyValue, .error, 2⟩, ⟨.duplicateKey, .error, 1⟩, ⟨.keyOrder, .warning, 1⟩,
          ⟨.unusedKey, .warning, 2⟩] := by
    decide +kernel
  obtain ⟨herrors, hwarnings⟩ := summary_accounts_for_every_finding.2 "" _ (.run hrun)
  rw [Report.ofOutcome, hcounts] at herrors hwarnings
  exact ⟨_, hrun, hcounts, herrors.symm, hwarnings.symm⟩

end Report

end CatalogLint
