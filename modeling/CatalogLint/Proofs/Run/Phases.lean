import CatalogLint.Proofs.Catalog.Lines
import CatalogLint.Proofs.Coherence.Directories
import CatalogLint.Proofs.Template.Keys
import CatalogLint.Run

/-! # The phases of a run

    A run reports in phases: the catalogs one by one, the languages of the forbidden
    patterns, the coherence of the catalogs, the templates, and the policy about unused
    keys.  `runCompiled_spec` says what all of them together leave behind; whatever else
    is known about a run is read off it.

    * the record is the findings of the phases one after the other, and a language
      without a catalog keeps the later phases from taking place;
    * every finding of the record comes from one of the phases (`reported_of_mem_findings`);
    * the verdict, the tallies and the messages agree with the record
      (`verdict_tallies_log_and_messages_agree`). -/

namespace CatalogLint

variable {options : Options} {compiled : List (String × List CompiledPattern)}

/-! ## What the phases report -/

/-- The catalogs of a run after their own check. -/
def parsedCatalogs (options : Options) (compiled : List (String × List CompiledPattern))
    (catalogs : List SourceFile) : List ParsedCatalog :=
  catalogs.map fun file => (Catalog.checkFile options compiled file).1

/-- The findings about the catalogs one by one. -/
def catalogFindings (options : Options) (compiled : List (String × List CompiledPattern))
    (catalogs : List SourceFile) : List Finding :=
  catalogs.flatMap fun file => (Catalog.checkFile options compiled file).2

/-- The findings about languages of the forbidden patterns that have no catalog. -/
def languageFindings (options : Options) (parsed : List ParsedCatalog) : List Finding :=
  (languagesWithoutCatalog options parsed).map (configurationFinding options)

/-- The findings of the phases that take place only if every language has a catalog:
    coherence, then templates. -/
def laterFindings (options : Options) (parsed : List ParsedCatalog)
    (templates : List SourceFile) : List Finding :=
  if languagesWithoutCatalog options parsed = [] then
    Coherence.checkAll parsed
      ++ Template.templateFindings options (KnownKeys.ofCatalogs parsed) templates
  else []

/-- What a run asks the policy about unused keys, once for each list: at most one list,
    and none if a language has no catalog. -/
def runPolicyCalls (options : Options) (parsed : List ParsedCatalog)
    (templates : List SourceFile) : List (List String) :=
  if languagesWithoutCatalog options parsed = [] then
    Template.policyCalls (KnownKeys.ofCatalogs parsed) templates
  else []

/-! ## What a run leaves behind -/

/-- What the phases of a run come to on a sink that has received nothing. -/
def runCompiled (options : Options) (compiled : List (String × List CompiledPattern))
    (catalogs templates : List SourceFile) (policy : UnusedKeyPolicy) : RunOutcome :=
  (checkPhases options compiled catalogs templates policy (.new {})).2

/-- Whatever its sink has received before, a run reports the findings of its phases in order,
    and what it comes to is read off its reporter at the end. -/
theorem checkPhases_spec (options : Options)
    (compiled : List (String × List CompiledPattern)) (catalogs templates : List SourceFile)
    (policy : UnusedKeyPolicy) (before : Trace) :
    let parsed := parsedCatalogs options compiled catalogs
    let calls := runPolicyCalls options parsed templates
    ∃ reporter : Reporter,
      reporter.Consistent before calls (calls.flatMap policy.rawMessages)
      ∧ reporter.findings.toList
          = catalogFindings options compiled catalogs ++ languageFindings options parsed
            ++ laterFindings options parsed templates ++ calls.flatMap policy.findings
      ∧ checkPhases options compiled catalogs templates policy (.new before)
        = (reporter,
          outcomeOf options catalogs templates parsed (calls.any policy.fails) reporter) := by
  intro parsed calls
  let fresh := Reporter.new before
  have hparsed : (catalogs.map (Catalog.checkFile options compiled)).map Prod.fst = parsed :=
    List.map_map
  have hcatalogs : (catalogs.map (Catalog.checkFile options compiled)).foldl
      (fun reporter file => reporter.emitAll file.2) fresh
        = fresh.emitAll (catalogFindings options compiled catalogs) := by
    rw [List.foldl_map]
    exact Reporter.foldl_emitAll (fun file => (Catalog.checkFile options compiled file).2)
      catalogs fresh
  have hlanguages : ((fresh.emitAll (catalogFindings options compiled catalogs)).emitAll
      ((languagesWithoutCatalog options parsed).map (configurationFinding options)))
        = fresh.emitAll
          (catalogFindings options compiled catalogs ++ languageFindings options parsed) :=
    (Reporter.emitAll_append _ _ _).symm
  have hcoherence : (Coherence.recordAll parsed []).2 = Coherence.checkAll parsed :=
    congrArg Prod.snd (Coherence.recordAll_eq parsed [])
  have hconsistent := (Reporter.consistent_new before).emitAll
    (catalogFindings options compiled catalogs ++ languageFindings options parsed)
  have hnothing : fresh.findings.toList = [] := rfl
  rw [checkPhases, hparsed, hcatalogs, hcoherence]
  by_cases h : languagesWithoutCatalog options parsed = []
  · -- every language has a catalog, so all phases take place
    have hcalls : calls = Template.policyCalls (KnownKeys.ofCatalogs parsed) templates := if_pos h
    have hlater : laterFindings options parsed templates = Coherence.checkAll parsed
        ++ Template.templateFindings options (KnownKeys.ofCatalogs parsed) templates := if_pos h
    rw [hlanguages, if_pos (List.isEmpty_iff.mpr h), hcalls, hlater]
    refine ⟨_, Template.consistent_checkAll options policy
      (hconsistent.emitAll (Coherence.checkAll parsed)), ?_, ?_⟩
    · rw [Template.findings_checkAll, Reporter.findings_emitAll, Reporter.findings_emitAll,
        hnothing]
      simp only [List.nil_append, List.append_assoc]
    · rw [← Template.unusedFailure_checkAll]
  · -- the run ends with the second phase, and nobody asks the policy
    have hcalls : calls = [] := if_neg h
    have hlater : laterFindings options parsed templates = [] := if_neg h
    rw [hlanguages, if_neg (fun hempty => h (List.isEmpty_iff.mp hempty)), hcalls, hlater]
    refine ⟨_, hconsistent, ?_, rfl⟩
    rw [Reporter.findings_emitAll, hnothing]
    simp only [List.nil_append, List.flatMap_nil, List.append_nil]

/-- What a run comes to on a sink that has received nothing. -/
theorem runCompiled_spec (options : Options)
    (compiled : List (String × List CompiledPattern)) (catalogs templates : List SourceFile)
    (policy : UnusedKeyPolicy) :
    let parsed := parsedCatalogs options compiled catalogs
    let calls := runPolicyCalls options parsed templates
    ∃ reporter : Reporter,
      reporter.Consistent {} calls (calls.flatMap policy.rawMessages)
      ∧ reporter.findings.toList
          = catalogFindings options compiled catalogs ++ languageFindings options parsed
            ++ laterFindings options parsed templates ++ calls.flatMap policy.findings
      ∧ runCompiled options compiled catalogs templates policy
        = outcomeOf options catalogs templates parsed (calls.any policy.fails) reporter := by
  obtain ⟨reporter, hconsistent, hfindings, hphases⟩ :=
    checkPhases_spec options compiled catalogs templates policy {}
  exact ⟨reporter, hconsistent, hfindings, congrArg Prod.snd hphases⟩

section Results

variable (options : Options) (compiled : List (String × List CompiledPattern))
variable (catalogs templates : List SourceFile) (policy : UnusedKeyPolicy)

/-- A run hands out the catalogs as they come out of their own check. -/
theorem catalogs_runCompiled :
    (runCompiled options compiled catalogs templates policy).catalogs
      = parsedCatalogs options compiled catalogs := by
  obtain ⟨reporter, -, -, hrun⟩ := runCompiled_spec options compiled catalogs templates policy
  rw [hrun]
  rfl

/-- The record of a run is the findings of its phases in order, and then those of the
    policy. -/
theorem findings_runCompiled :
    (runCompiled options compiled catalogs templates policy).findings
      = catalogFindings options compiled catalogs
        ++ languageFindings options (parsedCatalogs options compiled catalogs)
        ++ laterFindings options (parsedCatalogs options compiled catalogs) templates
        ++ (runPolicyCalls options (parsedCatalogs options compiled catalogs) templates).flatMap
          policy.findings := by
  obtain ⟨reporter, -, hfindings, hrun⟩ :=
    runCompiled_spec options compiled catalogs templates policy
  rw [hrun]
  exact hfindings

/-- A run hands on the messages of its record, and then what the policy sends itself. -/
theorem messages_runCompiled :
    (runCompiled options compiled catalogs templates policy).messages
      = (runCompiled options compiled catalogs templates policy).findings.map Finding.toMessage
        ++ (runPolicyCalls options (parsedCatalogs options compiled catalogs) templates).flatMap
          policy.rawMessages := by
  obtain ⟨reporter, hconsistent, -, hrun⟩ :=
    runCompiled_spec options compiled catalogs templates policy
  rw [hrun]
  exact hconsistent.sent

/-- The counts of a run are read off its sources, its catalogs and its record. -/
theorem statistics_runCompiled :
    (runCompiled options compiled catalogs templates policy).statistics
      = { catalogs := catalogs.length
          groups := (groupByDirectory ParsedCatalog.group
            (parsedCatalogs options compiled catalogs)).length
          templates := templates.length
          keys := (KnownKeys.ofCatalogs (parsedCatalogs options compiled catalogs)).size
          errors := (runCompiled options compiled catalogs templates policy).findings.countP
            Finding.isError
          warnings := (runCompiled options compiled catalogs templates policy).findings.countP
            Finding.isWarning } := by
  obtain ⟨reporter, hconsistent, -, hrun⟩ :=
    runCompiled_spec options compiled catalogs templates policy
  rw [hrun]
  simp only [outcomeOf, hconsistent.errors, hconsistent.warnings]

/-- The verdict on a run is the one on its tallies and on the answers of the policy. -/
theorem valid_runCompiled :
    (runCompiled options compiled catalogs templates policy).valid
      = isValid options
        (runCompiled options compiled catalogs templates policy).statistics.errors
        (runCompiled options compiled catalogs templates policy).statistics.warnings
        ((runPolicyCalls options (parsedCatalogs options compiled catalogs) templates).any
          policy.fails) := by
  obtain ⟨reporter, -, -, hrun⟩ := runCompiled_spec options compiled catalogs templates policy
  rw [hrun]
  rfl

end Results

section Actions

variable {read? : PatternReader}

/-- With patterns that are right a run on files comes to a result, whatever has been seen
    before.  What has been seen stays where it is; the messages of the run come behind it, and
    so do its questions to the policy. -/
theorem executeOn_eq_ok (h : options.normalized.compile read? = .ok compiled)
    (catalogs templates : List SourceFile) (policy : UnusedKeyPolicy) (before : Trace) :
    let outcome := runCompiled options.normalized compiled catalogs templates policy
    ∃ after : Trace,
      executeOn read? options catalogs templates policy before
        = .ok { outcome with messages := after.messages.toList } after
      ∧ after.messages.toList = before.messages.toList ++ outcome.messages
      ∧ after.questions.toList
        = before.questions.toList
          ++ runPolicyCalls options.normalized
            (parsedCatalogs options.normalized compiled catalogs) templates := by
  intro outcome
  obtain ⟨reporter, hconsistent, hfindings, hphases⟩ :=
    checkPhases_spec options.normalized compiled catalogs templates policy before
  have haction : executeOn read? options catalogs templates policy before
      = .ok (checkPhases options.normalized compiled catalogs templates policy (.new before)).2
        (checkPhases options.normalized compiled catalogs templates policy
          (.new before)).1.trace := by
    rw [executeOn, h]
    rfl
  -- on a sink that has received nothing the same is recorded, so the tallies are the same
  obtain ⟨fresh, hfresh, hfreshFindings, hrun⟩ :=
    runCompiled_spec options.normalized compiled catalogs templates policy
  have hrecord : reporter.findings.toList = fresh.findings.toList :=
    hfindings.trans hfreshFindings.symm
  refine ⟨reporter.trace, ?_, ?_, hconsistent.asked⟩
  · rw [haction, hphases, show outcome = _ from hrun, outcomeOf, outcomeOf, hconsistent.errors,
      hconsistent.warnings, hfresh.errors, hfresh.warnings, hrecord]
    rfl
  · rw [show outcome = _ from hrun]
    show reporter.sent.toList = before.messages.toList ++ fresh.sent.toList
    rw [hconsistent.sent, hfresh.sent, hrecord, List.append_assoc]
    rfl

/-- A pattern that is wrong is all that a run comes to, and what has been seen before is all
    that is seen. -/
theorem executeOn_eq_error {error : PatternError}
    (h : options.normalized.compile read? = .error error) (catalogs templates : List SourceFile)
    (policy : UnusedKeyPolicy) (before : Trace) :
    executeOn read? options catalogs templates policy before
      = .error (.badPattern error true) before := by
  rw [executeOn, h]
  rfl

/-- Patterns that are right let the run come to a result. -/
theorem runOn_eq (h : options.normalized.compile read? = .ok compiled)
    (catalogs templates : List SourceFile) (policy : UnusedKeyPolicy) :
    runOn read? options catalogs templates policy
      = .ok (runCompiled options.normalized compiled catalogs templates policy) := by
  rw [runOn, executeOn, h]
  rfl

/-- A pattern that is wrong is all that the run comes to. -/
theorem runOn_eq_error {error : PatternError}
    (h : options.normalized.compile read? = .error error) (catalogs templates : List SourceFile)
    (policy : UnusedKeyPolicy) :
    runOn read? options catalogs templates policy = .error (.badPattern error true) := by
  rw [runOn, executeOn, h]
  rfl

/-- A run that comes to a result had patterns that are right. -/
theorem of_runOn_eq_ok {catalogs templates : List SourceFile} {policy : UnusedKeyPolicy}
    {outcome : RunOutcome} (h : runOn read? options catalogs templates policy = .ok outcome) :
    ∃ compiled, options.normalized.compile read? = .ok compiled
      ∧ outcome = runCompiled options.normalized compiled catalogs templates policy := by
  cases hcompile : options.normalized.compile read? with
  | error error =>
      rw [runOn_eq_error hcompile] at h
      exact nomatch h
  | ok compiled =>
      rw [runOn_eq hcompile] at h
      exact ⟨compiled, rfl, (Except.ok.inj h).symm⟩

end Actions

/-- A run is valid if it has no error, no warning that counts, and no objection. -/
theorem isValid_iff {errors warnings : Nat} {unusedFailure : Bool} :
    isValid options errors warnings unusedFailure = true
      ↔ errors = 0 ∧ ¬ (options.failOnWarning = true ∧ 0 < warnings) ∧ unusedFailure = false := by
  rw [isValid, Bool.and_eq_true, Bool.and_eq_true, beq_iff_eq, Bool.not_eq_true',
    Bool.not_eq_true', Bool.and_eq_false_iff, decide_eq_false_iff_not, and_assoc]
  refine and_congr_right fun _ => and_congr_left fun _ => ?_
  rw [Decidable.not_and_iff_or_not, Bool.not_eq_true]

/-- No finding weighs as an error if their number is zero. -/
theorem countP_isError_eq_zero {findings : List Finding} :
    findings.countP Finding.isError = 0 ↔ ∀ finding ∈ findings, finding.severity ≠ .error := by
  rw [List.countP_eq_zero]
  refine forall₂_congr fun finding _ => ?_
  rw [Finding.isError, beq_iff_eq]

/-- Some finding weighs as a warning if their number is positive. -/
theorem countP_isWarning_pos {findings : List Finding} :
    0 < findings.countP Finding.isWarning
      ↔ ∃ finding ∈ findings, finding.severity = .warning := by
  rw [List.countP_pos_iff]
  refine exists_congr fun finding => and_congr_right fun _ => ?_
  rw [Finding.isWarning, beq_iff_eq]

/-! ## The rules of each phase -/

section Rules

variable {parsed : List ParsedCatalog} {catalogs templates : List SourceFile}
variable {policy : UnusedKeyPolicy} {unused : List String} {finding : Finding}

/-- The catalogs one by one are reported on under the rules of a catalog. -/
theorem isCatalogRule_of_mem_catalogFindings
    (h : finding ∈ catalogFindings options compiled catalogs) :
    Catalog.isCatalogRule finding.category = true := by
  obtain ⟨file, -, hfile⟩ := List.mem_flatMap.mp h
  exact Catalog.isCatalogRule_of_mem_checkFile hfile

/-- A language without a catalog is a matter of configuration. -/
theorem category_of_mem_languageFindings (h : finding ∈ languageFindings options parsed) :
    finding.category = .configuration := by
  obtain ⟨language, -, rfl⟩ := List.mem_map.mp h
  rfl

/-- The later phases report on the coherence of the catalogs and on templates. -/
theorem of_mem_laterFindings (h : finding ∈ laterFindings options parsed templates) :
    finding ∈ Coherence.checkAll parsed
      ∨ ∃ file ∈ templates,
        finding ∈ Template.fileFindings options (KnownKeys.ofCatalogs parsed) file := by
  rw [laterFindings] at h
  split at h
  · exact (List.mem_append.mp h).imp_right List.mem_flatMap.mp
  · exact nomatch h

/-- A policy reports on unused keys. -/
theorem category_of_mem_policyFindings (h : finding ∈ policy.findings unused) :
    finding.category = .unusedKey :=
  (policy.warns unused finding h).category

end Rules

/-! ## Where a finding of a run comes from -/

/-- What a finding of a run is about: a catalog, a language without one, the coherence of
    the catalogs, a template, or keys that no template uses. -/
inductive Reported (options : Options) (compiled : List (String × List CompiledPattern))
    (catalogs templates : List SourceFile) (policy : UnusedKeyPolicy) (finding : Finding) :
    Prop where
  | catalog {file : SourceFile} (hfile : file ∈ catalogs)
      (h : finding ∈ (Catalog.checkFile options compiled file).2)
  | language (h : finding ∈ languageFindings options (parsedCatalogs options compiled catalogs))
  | coherence (h : finding ∈ Coherence.checkAll (parsedCatalogs options compiled catalogs))
  | template {file : SourceFile} (hfile : file ∈ templates)
      (h : finding ∈ Template.fileFindings options
        (KnownKeys.ofCatalogs (parsedCatalogs options compiled catalogs)) file)
  | policy {unused : List String} (h : finding ∈ policy.findings unused)

/-- Every finding of a run is about one of these. -/
theorem reported_of_mem_findings {catalogs templates : List SourceFile}
    {policy : UnusedKeyPolicy} {finding : Finding}
    (h : finding ∈ (runCompiled options compiled catalogs templates policy).findings) :
    Reported options compiled catalogs templates policy finding := by
  rw [findings_runCompiled] at h
  rcases List.mem_append.mp h with hphases | hpolicy
  · rcases List.mem_append.mp hphases with hfirst | hlater
    · rcases List.mem_append.mp hfirst with hcatalog | hlanguage
      · obtain ⟨file, hfile, hfinding⟩ := List.mem_flatMap.mp hcatalog
        exact .catalog hfile hfinding
      · exact .language hlanguage
    · rcases of_mem_laterFindings hlater with hcoherence | ⟨file, hfile, hfinding⟩
      · exact .coherence hcoherence
      · exact .template hfile hfinding
  · obtain ⟨unused, -, hunused⟩ := List.mem_flatMap.mp hpolicy
    exact .policy hunused

/-! ## A catalog on its own -/

/-- A catalog is checked on its own once its text has been read and the patterns are ready. -/
theorem validateFile_eq (read? : PatternReader) (options : Options) (path : String)
    (files : FileSystem) :
    validateFile read? options path files
      = match catalogText path files, options.compile read? with
        | .error failure, _ => .error failure
        | .ok _, .error error => .error (.badPattern error false)
        | .ok content, .ok compiled => .ok (checkAlone options compiled path content (.new {})).2 := by
  rw [validateFile, executeFile]
  cases catalogText path files with
  | error failure => rfl
  | ok content =>
      cases options.compile read? with
      | error error => rfl
      | ok compiled => rfl

/-- What the check of a catalog on its own comes to was read from a text with patterns that are
    right. -/
theorem of_validateFile_eq_ok {read? : PatternReader} {path : String} {files : FileSystem}
    {outcome : RunOutcome} (h : validateFile read? options path files = .ok outcome) :
    ∃ content compiled, outcome = (checkAlone options compiled path content (.new {})).2 := by
  rw [validateFile_eq] at h
  split at h
  · exact nomatch h
  · exact nomatch h
  · exact ⟨_, _, (Except.ok.inj h).symm⟩

/-- The accounts of the check of a catalog on its own: it reports what the check of the text
    finds, its tallies count that, and it keeps the keys and values that the check keeps. -/
theorem checkAlone_spec (options : Options) (compiled : List (String × List CompiledPattern))
    (path content : String) :
    let outcome := (checkAlone options compiled path content (.new {})).2
    let checked := Catalog.check options compiled content ((Path.stem? path).getD "")
    outcome.findings = checked.findings.map (·.inFile ((Path.fileName? path).getD ""))
      ∧ outcome.statistics.errors = outcome.findings.countP Finding.isError
      ∧ outcome.statistics.warnings = outcome.findings.countP Finding.isWarning
      ∧ ∃ kept, outcome.catalogs = [kept] ∧ kept.orderedKeys = checked.orderedKeys
        ∧ kept.values = checked.values := by
  have hconsistent := (Reporter.consistent_new {}).emitAll
    ((Catalog.check options compiled content ((Path.stem? path).getD "")).findings.map
      (·.inFile ((Path.fileName? path).getD "")))
  refine ⟨?_, ?_, ?_, ?_⟩
  · simp only [checkAlone, Catalog.recordCheck_eq, Array.toList_appendList]
    exact Reporter.findings_emitAll _ _
  · simp only [checkAlone, Catalog.recordCheck_eq, Array.toList_appendList]
    exact hconsistent.errors
  · simp only [checkAlone, Catalog.recordCheck_eq, Array.toList_appendList]
    exact hconsistent.warnings
  · simp only [checkAlone, Catalog.recordCheck_eq]
    exact ⟨_, rfl, rfl, rfl⟩

/-- A catalog that is checked on its own is reported on as in a run, with the name of its
    file. -/
theorem findings_of_validateFile_eq_ok {read? : PatternReader} {path : String}
    {files : FileSystem} {outcome : RunOutcome}
    (h : validateFile read? options path files = .ok outcome) :
    ∃ content compiled,
      outcome.findings
        = (Catalog.check options compiled content ((Path.stem? path).getD "")).findings.map
          (·.inFile ((Path.fileName? path).getD "")) := by
  obtain ⟨content, compiled, rfl⟩ := of_validateFile_eq_ok h
  exact ⟨content, compiled, (checkAlone_spec options compiled path content).1⟩

/-! ## The accounts of a run -/

/-- **Verdict, tallies, record and messages agree on every run.**  With patterns that are
    right a run comes to a result, whatever the policy.  Its record is the findings of the
    phases and those of the policy; its tallies are the numbers of errors and of warnings
    in the record.  The messages are those of the record in order, with its texts and
    lines; what a policy from outside reports itself follows them and stands neither in
    the record nor in the tallies.  The run is valid exactly if no finding is an error, no
    finding is a warning that counts, and no call of the policy was answered by an
    objection.  So it is for any policy, and in particular for the one that warns, which
    reports findings only and never objects, and for those from outside, which report no
    findings. -/
theorem verdict_tallies_log_and_messages_agree {read? : PatternReader}
    (h : options.normalized.compile read? = .ok compiled)
    (catalogs templates : List SourceFile) (policy : UnusedKeyPolicy) :
    let parsed := parsedCatalogs options.normalized compiled catalogs
    let calls := runPolicyCalls options.normalized parsed templates
    ∃ outcome, runOn read? options catalogs templates policy = .ok outcome
      ∧ outcome.findings
          = catalogFindings options.normalized compiled catalogs
            ++ languageFindings options.normalized parsed
            ++ laterFindings options.normalized parsed templates
            ++ calls.flatMap policy.findings
      ∧ outcome.statistics.errors = outcome.findings.countP (·.severity = .error)
      ∧ outcome.statistics.warnings = outcome.findings.countP (·.severity = .warning)
      ∧ outcome.messages
          = (outcome.findings.map fun finding => ⟨finding.rendered, finding.line⟩)
            ++ calls.flatMap policy.rawMessages
      ∧ (policy = .warn →
          outcome.messages = outcome.findings.map fun finding => ⟨finding.rendered, finding.line⟩)
      ∧ (∀ decide, policy = .external decide →
          outcome.messages
            = (outcome.findings.map fun finding => ⟨finding.rendered, finding.line⟩)
              ++ calls.flatMap fun unused => (decide unused).1)
      ∧ (outcome.valid = true
          ↔ (∀ finding ∈ outcome.findings, finding.severity ≠ .error)
            ∧ ¬ (options.failOnWarning = true
              ∧ ∃ finding ∈ outcome.findings, finding.severity = .warning)
            ∧ ∀ unused ∈ calls, policy.fails unused = false)
      ∧ (∀ decide, policy = .external decide → ∀ unused, policy.fails unused = (decide unused).2)
      ∧ (policy = .warn → ∀ unused, policy.fails unused = false) := by
  intro parsed calls
  obtain ⟨reporter, hconsistent, hfindings, hrun⟩ :=
    runCompiled_spec options.normalized compiled catalogs templates policy
  refine ⟨_, (runOn_eq h catalogs templates policy).trans (congrArg _ hrun), hfindings,
    hconsistent.errors, hconsistent.warnings, hconsistent.sent, ?_, ?_, ?_, ?_, ?_⟩
  · intro hwarn
    subst hwarn
    have hraw : calls.flatMap UnusedKeyPolicy.warn.rawMessages = [] :=
      List.flatMap_eq_nil_iff.mpr fun _ _ => rfl
    rw [hraw] at hconsistent
    exact hconsistent.sent.trans (List.append_nil _)
  · intro decide hexternal
    subst hexternal
    exact hconsistent.sent
  · show isValid _ _ _ _ = true ↔ _
    rw [isValid_iff, hconsistent.errors, countP_isError_eq_zero, hconsistent.warnings,
      countP_isWarning_pos, List.any_eq_false]
    simp only [Bool.not_eq_true]
    exact Iff.rfl
  · rintro decide rfl unused
    rfl
  · rintro rfl unused
    rfl

/-- The pattern of lines that are indented by a tab can be read. -/
theorem isSome_read?_linePattern_tab : (Pattern.read? (linePattern "\t") false).isSome = true := by
  decide +kernel

/-- With lines that are indented by a tab, catalogs can be checked if the forbidden patterns
    are right. -/
theorem compile_read?_eq_ok {options : Options} (hindent : options.indentUnit = "\t")
    (h : options.compileForbidden Pattern.read? = .ok compiled) :
    options.compile Pattern.read? = .ok compiled := by
  refine Options.compile_eq_ok_iff.mpr ⟨h, ?_⟩
  rw [hindent]
  exact isSome_read?_linePattern_tab

/-- A run with a forbidden pattern that occurs and a policy from outside that objects: the
    warning is handed on and tallied, the message of the policy is handed on only, and the
    objection makes the run invalid. -/
theorem agree_under_objection :
    let options : Options :=
      { forbiddenPatterns := .ofList [("en", [⟨"x", true, "no x"⟩])] }
    let catalog : SourceFile := ⟨"en.json", "en.json", "\"A\": \"x\""⟩
    let policy : UnusedKeyPolicy :=
      .external fun unused => ([⟨"unused: " ++ ", ".intercalate unused, none⟩], true)
    ∃ compiled outcome, options.normalized.compile Pattern.read? = .ok compiled
      ∧ runOn Pattern.read? options [catalog] [] policy = .ok outcome
      ∧ outcome.messages = [⟨"[ WARNING ] no x", some 1⟩, ⟨"unused: A", none⟩]
      ∧ outcome.statistics.warnings = 1
      ∧ outcome.valid = false := by
  intro options catalog policy
  have hcompile : options.normalized.compile Pattern.read?
      = .ok ((options.compileForbidden Pattern.read?).toOption.getD []) :=
    compile_read?_eq_ok rfl rfl
  obtain ⟨outcome, hrun, hfindings, -, hwarnings, hmessages, -, -, hvalid, -⟩ :=
    verdict_tallies_log_and_messages_agree hcompile [catalog] [] policy
  refine ⟨_, outcome, hcompile, hrun, ?_, ?_, ?_⟩
  · rw [hmessages, hfindings]
    decide +kernel
  · rw [hwarnings, hfindings]
    decide +kernel
  · rw [← Bool.not_eq_true, hvalid]
    rintro ⟨-, -, hanswers⟩
    exact absurd (hanswers ["A"] (by decide +kernel)) (by decide)

end CatalogLint
