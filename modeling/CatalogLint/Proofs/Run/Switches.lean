import CatalogLint.Proofs.Catalog.Lines
import CatalogLint.Proofs.Run.Phases

/-! # Switches of a run

    Four options turn one rule each on or off, and one option says what warnings do to
    the verdict.  A rule that is off takes its own findings out of the whole run and
    changes nothing else (`switches_remove_only_their_findings`): the keys that are
    seen, the values that are kept, and with them everything the later phases compare,
    do not depend on what has been reported.

    * options that agree on some rules lead to runs that do (`AgreeOn`,
      `restrict_findings_runCompiled`);
    * turning a rule off leaves the options in agreement on all other rules
      (`agreeOn_silence`), and nothing is reported under it any more
      (`category_ne_of_mem_findings`). -/

namespace CatalogLint

open Finding Catalog

/-! ## Options that agree on some rules -/

section Agreement

variable {options options' : Options} {keep : Category → Bool}

/-- Two options agree on some rules: lines have the same shape under both, the languages
    of the forbidden patterns are the same, and so is what those rules report about pairs
    and about templates. -/
structure AgreeOn (keep : Category → Bool) (options options' : Options) : Prop where
  indentUnit : options'.indentUnit = options.indentUnit
  catalogExtension : options'.catalogExtension = options.catalogExtension
  forbiddenPatterns : options'.forbiddenPatterns = options.forbiddenPatterns
  pairs : ∀ forbidden progress key value,
    restrict keep (pairFindings ⟨options', forbidden⟩ progress key value)
      = restrict keep (pairFindings ⟨options, forbidden⟩ progress key value)
  templates : ∀ known file,
    restrict keep (Template.fileFindings options' known file)
      = restrict keep (Template.fileFindings options known file)

namespace AgreeOn

/-- The catalogs come out of their own check the same. -/
theorem parsedCatalogs_eq (h : AgreeOn keep options options')
    (compiled : List (String × List CompiledPattern)) (catalogs : List SourceFile) :
    parsedCatalogs options' compiled catalogs = parsedCatalogs options compiled catalogs :=
  List.map_congr_left fun file _ => checkFile_fst h.indentUnit compiled file

/-- The same languages have no catalog. -/
theorem languagesWithoutCatalog_eq (h : AgreeOn keep options options')
    (parsed : List ParsedCatalog) :
    languagesWithoutCatalog options' parsed = languagesWithoutCatalog options parsed := by
  rw [languagesWithoutCatalog, languagesWithoutCatalog, h.forbiddenPatterns]

/-- The findings about languages are the same. -/
theorem languageFindings_eq (h : AgreeOn keep options options') (parsed : List ParsedCatalog) :
    languageFindings options' parsed = languageFindings options parsed := by
  have hmake : configurationFinding options' = configurationFinding options := by
    funext language
    rw [configurationFinding, configurationFinding, h.catalogExtension]
  rw [languageFindings, languageFindings, h.languagesWithoutCatalog_eq, hmake]

/-- The policy about unused keys is asked the same. -/
theorem runPolicyCalls_eq (h : AgreeOn keep options options') (parsed : List ParsedCatalog)
    (templates : List SourceFile) :
    runPolicyCalls options' parsed templates = runPolicyCalls options parsed templates := by
  rw [runPolicyCalls, runPolicyCalls, h.languagesWithoutCatalog_eq]

/-- The catalogs one by one are reported on the same. -/
theorem restrict_catalogFindings (h : AgreeOn keep options options')
    (compiled : List (String × List CompiledPattern)) (catalogs : List SourceFile) :
    restrict keep (catalogFindings options' compiled catalogs)
      = restrict keep (catalogFindings options compiled catalogs) := by
  rw [catalogFindings, catalogFindings, restrict_flatMap, restrict_flatMap]
  simp only [restrict_checkFile h.indentUnit h.pairs]

/-- Coherence and templates are reported on the same. -/
theorem restrict_laterFindings (h : AgreeOn keep options options') (parsed : List ParsedCatalog)
    (templates : List SourceFile) :
    restrict keep (laterFindings options' parsed templates)
      = restrict keep (laterFindings options parsed templates) := by
  rw [laterFindings, laterFindings, h.languagesWithoutCatalog_eq]
  split
  · rw [restrict_append, restrict_append, Template.templateFindings, Template.templateFindings,
      restrict_flatMap, restrict_flatMap]
    simp only [h.templates]
  · rfl

/-- **Runs agree on the rules that their options agree on.** -/
theorem restrict_findings_runCompiled (h : AgreeOn keep options options')
    (compiled : List (String × List CompiledPattern)) (catalogs templates : List SourceFile)
    (policy : UnusedKeyPolicy) :
    restrict keep (runCompiled options' compiled catalogs templates policy).findings
      = restrict keep (runCompiled options compiled catalogs templates policy).findings := by
  rw [findings_runCompiled, findings_runCompiled, h.parsedCatalogs_eq, h.languageFindings_eq,
    h.runPolicyCalls_eq]
  simp only [restrict_append, h.restrict_catalogFindings, h.restrict_laterFindings]

/-- The catalogs that a run hands out are the same. -/
theorem catalogs_runCompiled (h : AgreeOn keep options options')
    (compiled : List (String × List CompiledPattern)) (catalogs templates : List SourceFile)
    (policy : UnusedKeyPolicy) :
    (runCompiled options' compiled catalogs templates policy).catalogs
      = (runCompiled options compiled catalogs templates policy).catalogs := by
  rw [CatalogLint.catalogs_runCompiled, CatalogLint.catalogs_runCompiled, h.parsedCatalogs_eq]

/-- The counts of a run are the same, apart from the tallies. -/
theorem statistics_runCompiled (h : AgreeOn keep options options')
    (compiled : List (String × List CompiledPattern)) (catalogs templates : List SourceFile)
    (policy : UnusedKeyPolicy) :
    (runCompiled options' compiled catalogs templates policy).statistics
      = { (runCompiled options compiled catalogs templates policy).statistics with
          errors := (runCompiled options' compiled catalogs templates policy).statistics.errors
          warnings :=
            (runCompiled options' compiled catalogs templates policy).statistics.warnings } := by
  simp only [CatalogLint.statistics_runCompiled, h.parsedCatalogs_eq]

end AgreeOn

end Agreement

/-! ## Switches -/

/-- An option that turns one rule on or off. -/
inductive Switch where
  | ignoreOrder
  | ignoreEmptyValues
  | enforceKeyPrefixes
  | checkTemplates
  deriving DecidableEq, Repr

namespace Switch

/-- The rule that a switch turns on or off. -/
def rule : Switch → Category
  | ignoreOrder => .keyOrder
  | ignoreEmptyValues => .emptyValue
  | enforceKeyPrefixes => .keyPrefix
  | checkTemplates => .untranslatedText

/-- The options with the rule of a switch turned off. -/
def silence (options : Options) : Switch → Options
  | ignoreOrder => { options with ignoreOrder := true }
  | ignoreEmptyValues => { options with ignoreEmptyValues := true }
  | enforceKeyPrefixes => { options with enforceKeyPrefixes := false }
  | checkTemplates => { options with checkTemplates := false }

/-- The normal form leaves the switches alone. -/
theorem normalized_silence (options : Options) (switch : Switch) :
    (switch.silence options).normalized = switch.silence options.normalized := by
  cases switch <;> rfl

/-- The patterns do not depend on the switches. -/
theorem compile_silence (read? : PatternReader) (options : Options) (switch : Switch) :
    (switch.silence options).normalized.compile read? = options.normalized.compile read? := by
  cases switch <;> rfl

/-! ### The other rules -/

/-- The rules that a switch does not turn on or off. -/
def others (switch : Switch) (rule : Category) : Bool :=
  rule ≠ switch.rule

/-- Turning a rule off leaves the options in agreement on all other rules. -/
theorem agreeOn_silence (options : Options) (switch : Switch) :
    AgreeOn switch.others options (switch.silence options) where
  indentUnit := by cases switch <;> rfl
  catalogExtension := by cases switch <;> rfl
  forbiddenPatterns := by cases switch <;> rfl
  pairs := by
    intro forbidden progress key value
    simp only [pairFindings, restrict_append]
    cases switch with
    | ignoreOrder =>
        rw [(allFrom_orderFindings _ _ _).restrict_eq_nil rfl,
          (allFrom_orderFindings _ _ _).restrict_eq_nil rfl]
        rfl
    | ignoreEmptyValues =>
        rw [(allFrom_emptyFindings _ _ _).restrict_eq_nil rfl,
          (allFrom_emptyFindings _ _ _).restrict_eq_nil rfl]
        rfl
    | enforceKeyPrefixes =>
        rw [(allFrom_prefixFindings _ _).restrict_eq_nil rfl,
          (allFrom_prefixFindings _ _).restrict_eq_nil rfl]
        rfl
    | checkTemplates => rfl
  templates := by
    intro known file
    cases switch with
    | ignoreOrder => rfl
    | ignoreEmptyValues => rfl
    | enforceKeyPrefixes => rfl
    | checkTemplates =>
        simp only [Template.fileFindings, restrict_append]
        refine congrArg _ ?_
        show [] = restrict _ _
        split
        · exact ((Template.allFrom_literalFindings _ _ _).restrict_eq_nil rfl).symm
        · rfl

/-! ### The rule that is off -/

/-- Nothing is reported about the order of keys if it is free. -/
theorem orderFindings_of_ignoreOrder {options : Options} (h : options.ignoreOrder = true)
    (progress : Progress) (key : String) : orderFindings options progress key = [] := by
  rw [orderFindings, h, Bool.or_true, if_pos rfl]

/-- Nothing is reported about empty values if they may be empty. -/
theorem emptyFindings_of_ignoreEmptyValues {options : Options}
    (h : options.ignoreEmptyValues = true) (key value : String) :
    emptyFindings options key value = [] := by
  rw [emptyFindings, h, Bool.not_true, Bool.and_false]
  rfl

/-- Nothing is reported about the start of keys if nothing is asked of it. -/
theorem prefixFindings_of_not_enforced {options : Options}
    (h : options.enforceKeyPrefixes = false) (key : String) : prefixFindings options key = [] := by
  rw [prefixFindings, h, Bool.false_and]
  rfl

variable {options : Options} {switch : Switch} {finding : Finding}
variable {compiled : List (String × List CompiledPattern)}

/-- Under a rule that is off nothing is reported about a pair. -/
theorem category_ne_of_mem_pairFindings {forbidden : List CompiledPattern}
    {progress : Progress} {key value : String}
    (h : finding ∈ pairFindings ⟨switch.silence options, forbidden⟩ progress key value) :
    finding.category ≠ switch.rule := by
  intro hrule
  have hmem := mem_filter_category h
  rw [hrule, filter_pairFindings] at hmem
  have hnone : ∀ {found : List Finding}, finding ∈ found → found ≠ [] := List.ne_nil_of_mem
  cases switch with
  | ignoreOrder => exact hnone hmem (orderFindings_of_ignoreOrder rfl progress key)
  | ignoreEmptyValues => exact hnone hmem (emptyFindings_of_ignoreEmptyValues rfl key value)
  | enforceKeyPrefixes => exact hnone hmem (prefixFindings_of_not_enforced rfl key)
  | checkTemplates => exact hnone hmem rfl

/-- Under a rule that is off nothing is reported about a catalog file. -/
theorem category_ne_of_mem_checkFile {file : SourceFile}
    (h : finding ∈ (checkFile (switch.silence options) compiled file).2) :
    finding.category ≠ switch.rule := by
  obtain ⟨before, place, line, atLine, rfl, hline⟩ := of_mem_checkFile h
  obtain ⟨reported, rfl, hreported⟩ := of_mem_findingsAt hline
  show reported.category ≠ switch.rule
  rcases hreported with hshape | ⟨key, value, -, hpair⟩
  · rcases of_mem_lineFindings hshape with hrule | hrule <;> rw [hrule] <;> cases switch <;> decide
  · exact category_ne_of_mem_pairFindings hpair

/-- Under a rule that is off nothing is reported about a template. -/
theorem category_ne_of_mem_fileFindings {known : KnownKeys} {file : SourceFile}
    (h : finding ∈ Template.fileFindings (switch.silence options) known file) :
    finding.category ≠ switch.rule := by
  intro hrule
  have hmem := mem_filter_category h
  rw [hrule, Template.filter_fileFindings] at hmem
  cases switch <;> exact absurd hmem List.not_mem_nil

/-- **Under a rule that is off a run reports nothing.** -/
theorem category_ne_of_mem_findings {catalogs templates : List SourceFile}
    {policy : UnusedKeyPolicy}
    (h : finding ∈
      (runCompiled (switch.silence options) compiled catalogs templates policy).findings) :
    finding.category ≠ switch.rule := by
  cases reported_of_mem_findings h with
  | catalog _ hfile => exact category_ne_of_mem_checkFile hfile
  | language hlanguage =>
      rw [category_of_mem_languageFindings hlanguage]
      cases switch <;> decide
  | coherence hcoherence =>
      intro hrule
      have hother := (Coherence.of_mem_checkAll hcoherence).2
      rw [hrule] at hother
      cases switch <;> exact nomatch hother
  | template _ hfile => exact category_ne_of_mem_fileFindings hfile
  | policy hunused =>
      rw [category_of_mem_policyFindings hunused]
      cases switch <;> decide

/-- The record of a run with a rule turned off is that of the run, without the findings of
    the rule. -/
theorem findings_runCompiled_silence (options : Options) (switch : Switch)
    (compiled : List (String × List CompiledPattern)) (catalogs templates : List SourceFile)
    (policy : UnusedKeyPolicy) :
    (runCompiled (switch.silence options) compiled catalogs templates policy).findings
      = (runCompiled options compiled catalogs templates policy).findings.filter
        (·.category ≠ switch.rule) := by
  have hkept : ∀ finding ∈
      (runCompiled (switch.silence options) compiled catalogs templates policy).findings,
      switch.others finding.category = true :=
    fun _ h => decide_eq_true (category_ne_of_mem_findings h)
  rw [← restrict_eq_self hkept, (agreeOn_silence options switch).restrict_findings_runCompiled]
  rfl

end Switch

/-! ## The switch for warnings -/

/-- What warnings do to the verdict does not matter for what is reported. -/
theorem agreeOn_failOnWarning (options : Options) (first second : Bool) :
    AgreeOn (fun _ => true) { options with failOnWarning := first }
      { options with failOnWarning := second } :=
  ⟨rfl, rfl, rfl, fun _ _ _ _ => rfl, fun _ _ => rfl⟩

/-- A run that fails on warnings comes to the same as one that does not, apart from the
    verdict, which can only be worse. -/
theorem runCompiled_failOnWarning (options : Options)
    (compiled : List (String × List CompiledPattern)) (catalogs templates : List SourceFile)
    (policy : UnusedKeyPolicy) :
    let lenient :=
      runCompiled { options with failOnWarning := false } compiled catalogs templates policy
    let strict :=
      runCompiled { options with failOnWarning := true } compiled catalogs templates policy
    strict = { lenient with valid := strict.valid }
    ∧ (strict.valid = true → lenient.valid = true) := by
  intro lenient strict
  have hagree := agreeOn_failOnWarning options false true
  have hcatalogs : strict.catalogs = lenient.catalogs :=
    hagree.catalogs_runCompiled compiled catalogs templates policy
  have hfindings : strict.findings = lenient.findings := by
    have hkept := hagree.restrict_findings_runCompiled compiled catalogs templates policy
    rwa [restrict_eq_self fun _ _ => rfl, restrict_eq_self fun _ _ => rfl] at hkept
  have hmessages : strict.messages = lenient.messages := by
    rw [messages_runCompiled, messages_runCompiled, hagree.parsedCatalogs_eq,
      hagree.runPolicyCalls_eq]
    exact congrArg (·.map Finding.toMessage ++ _) hfindings
  have herrors : strict.statistics.errors = lenient.statistics.errors := by
    rw [statistics_runCompiled, statistics_runCompiled]
    exact congrArg (·.countP isError) hfindings
  have hwarnings : strict.statistics.warnings = lenient.statistics.warnings := by
    rw [statistics_runCompiled, statistics_runCompiled]
    exact congrArg (·.countP isWarning) hfindings
  have hstatistics : strict.statistics = lenient.statistics := by
    have hcounts := hagree.statistics_runCompiled compiled catalogs templates policy
    refine hcounts.trans ?_
    show { lenient.statistics with
      errors := strict.statistics.errors, warnings := strict.statistics.warnings } = _
    rw [herrors, hwarnings]
  refine ⟨?_, ?_⟩
  · show RunOutcome.mk strict.valid strict.findings strict.catalogs strict.statistics
      strict.messages = _
    rw [hfindings, hcatalogs, hstatistics, hmessages]
  · rw [show strict.valid = _ from valid_runCompiled .., show lenient.valid = _ from
      valid_runCompiled .., isValid_iff, isValid_iff, hagree.parsedCatalogs_eq,
      hagree.runPolicyCalls_eq]
    rintro ⟨hnone, -, hanswers⟩
    refine ⟨?_, ?_, hanswers⟩
    · exact herrors ▸ hnone
    · rintro ⟨hfail, -⟩
      exact Bool.false_ne_true hfail

/-! ## Whole runs -/

/-- Two runs come to results that are related, or they fail in the same way. -/
def RunsRelated (related : RunOutcome → RunOutcome → Prop) :
    Except Failure RunOutcome → Except Failure RunOutcome → Prop
  | .ok first, .ok second => related first second
  | .error failure, .error failure' => failure = failure'
  | _, _ => False

/-- Runs with the same patterns are related if their results are. -/
theorem runsRelated_runOn {read? : PatternReader} {options options' : Options} {catalogs templates : List SourceFile}
    {policy : UnusedKeyPolicy} {related : RunOutcome → RunOutcome → Prop}
    (hcompile : options'.normalized.compile read? = options.normalized.compile read?)
    (h : ∀ compiled,
      related (runCompiled options.normalized compiled catalogs templates policy)
        (runCompiled options'.normalized compiled catalogs templates policy)) :
    RunsRelated related (runOn read? options catalogs templates policy)
      (runOn read? options' catalogs templates policy) := by
  cases hown : options.normalized.compile read? with
  | error bad =>
      rw [runOn_eq_error hown, runOn_eq_error (hcompile.trans hown)]
      rfl
  | ok compiled =>
      rw [runOn_eq hown, runOn_eq (hcompile.trans hown)]
      exact h compiled

/-- **Every switch removes exactly the findings of its own rule from a whole run.**  For
    all options, catalogs, templates and policies, turning off the order of keys, empty
    values, prefixes of keys or literal text gives the same record in the same order
    without the findings of that rule.  The catalogs, what the policy is asked about unused
    keys, what it sends, and all counts but the two tallies stay the same.  Whether
    warnings make the run fail changes nothing but the verdict, and a run that is valid
    although warnings count is valid without that.  Runs whose patterns are wrong fail in
    the same way. -/
theorem switches_remove_only_their_findings (read? : PatternReader) (options : Options)
    (catalogs templates : List SourceFile) (policy : UnusedKeyPolicy) :
    (∀ switch : Switch,
      RunsRelated
        (fun outcome silenced =>
          let asked := runPolicyCalls options.normalized outcome.catalogs templates
          silenced.findings = outcome.findings.filter (·.category ≠ switch.rule)
          ∧ silenced.catalogs = outcome.catalogs
          ∧ runPolicyCalls (switch.silence options).normalized silenced.catalogs templates
              = asked
          ∧ outcome.messages
              = outcome.findings.map Finding.toMessage ++ asked.flatMap policy.rawMessages
          ∧ silenced.messages
              = silenced.findings.map Finding.toMessage ++ asked.flatMap policy.rawMessages
          ∧ silenced.statistics
              = { outcome.statistics with
                  errors := silenced.statistics.errors
                  warnings := silenced.statistics.warnings })
        (runOn read? options catalogs templates policy)
        (runOn read? (switch.silence options) catalogs templates policy))
    ∧ RunsRelated
        (fun lenient strict =>
          strict = { lenient with valid := strict.valid }
          ∧ (strict.valid = true → lenient.valid = true))
        (runOn read? { options with failOnWarning := false } catalogs templates policy)
        (runOn read? { options with failOnWarning := true } catalogs templates policy) := by
  constructor
  · intro switch
    refine runsRelated_runOn (switch.compile_silence read? options) fun compiled => ?_
    have hagree := switch.agreeOn_silence options.normalized
    rw [switch.normalized_silence, catalogs_runCompiled, hagree.catalogs_runCompiled,
      catalogs_runCompiled]
    refine ⟨?_, rfl, ?_, ?_, ?_, ?_⟩
    · exact switch.findings_runCompiled_silence options.normalized compiled catalogs templates
        policy
    · exact hagree.runPolicyCalls_eq _ templates
    · exact messages_runCompiled options.normalized compiled catalogs templates policy
    · rw [messages_runCompiled, hagree.parsedCatalogs_eq, hagree.runPolicyCalls_eq]
    · exact hagree.statistics_runCompiled compiled catalogs templates policy
  · exact runsRelated_runOn rfl fun compiled =>
      runCompiled_failOnWarning options.normalized compiled catalogs templates policy

/-- The rules of the findings that are not about a rule are the other rules. -/
theorem map_category_filter (findings : List Finding) (rule : Category) :
    (findings.filter (·.category ≠ rule)).map (·.category)
      = (findings.map (·.category)).filter (· ≠ rule) := by
  rw [List.filter_map]
  rfl

/-- A catalog with a key that has no prefix, no value and no place in the order, and a template
    with a text that is not translated: every switch takes one of the four findings away.  Where
    the order alone is broken, the run is valid as long as warnings do not count. -/
theorem every_switch_removes_a_finding :
    let options : Options := { enforceKeyPrefixes := true }
    let broken : SourceFile := ⟨"en.json", "en.json", "\"title_B\": \"x\",\n\"A\": \"\""⟩
    let unsorted : SourceFile :=
      ⟨"en.json", "en.json", "\"title_B\": \"x\",\n\"title_A\": \"y\""⟩
    let template : SourceFile :=
      ⟨"t.html", "t.html",
        "<p>Hello</p>\x7b\x7b 'A' | translate \x7d\x7d\x7b\x7b 'title_B' | translate \x7d\x7d"⟩
    (∃ outcome, runOn Pattern.read? options [broken] [template] .warn = .ok outcome
      ∧ outcome.findings.map (·.category)
        = [.keyPrefix, .emptyValue, .keyOrder, .untranslatedText]
      ∧ ∀ switch : Switch, ∃ silenced,
          runOn Pattern.read? (switch.silence options) [broken] [template] .warn = .ok silenced
          ∧ silenced.findings.map (·.category)
            = [.keyPrefix, .emptyValue, .keyOrder, .untranslatedText].erase switch.rule)
    ∧ ∃ lenient strict,
        runOn Pattern.read? { options with failOnWarning := false } [unsorted] [] .warn
          = .ok lenient
        ∧ runOn Pattern.read? { options with failOnWarning := true } [unsorted] [] .warn
          = .ok strict
        ∧ strict = { lenient with valid := false }
        ∧ lenient.valid = true := by
  intro options broken unsorted template
  constructor
  · have hcompile : options.normalized.compile Pattern.read? = .ok [] :=
      compile_read?_eq_ok rfl rfl
    have hrun := runOn_eq hcompile [broken] [template] .warn
    have hcategories : (runCompiled options.normalized [] [broken] [template] .warn).findings.map
        (·.category) = [.keyPrefix, .emptyValue, .keyOrder, .untranslatedText] := by
      decide +kernel
    have hsilenced := fun switch : Switch =>
      runOn_eq ((switch.compile_silence Pattern.read? options).trans hcompile) [broken] [template]
        .warn
    obtain ⟨hlaw, -⟩ :=
      switches_remove_only_their_findings Pattern.read? options [broken] [template] .warn
    simp only [hrun, hsilenced, RunsRelated] at hlaw
    refine ⟨_, hrun, hcategories, fun switch => ⟨_, hsilenced switch, ?_⟩⟩
    rw [(hlaw switch).1, map_category_filter, hcategories]
    cases switch <;> rfl
  · have hcompile : ∀ failOnWarning,
        ({ options with failOnWarning } : Options).normalized.compile Pattern.read? = .ok [] :=
      fun _ => compile_read?_eq_ok rfl rfl
    have hlenient := runOn_eq (hcompile false) [unsorted] [] .warn
    have hstrict := runOn_eq (hcompile true) [unsorted] [] .warn
    obtain ⟨-, hverdicts⟩ :=
      switches_remove_only_their_findings Pattern.read? options [unsorted] [] .warn
    rw [hlenient, hstrict] at hverdicts
    have hvalid : (runCompiled ({ options with failOnWarning := false } : Options).normalized []
        [unsorted] [] .warn).valid = true := by
      decide +kernel
    have hinvalid : (runCompiled ({ options with failOnWarning := true } : Options).normalized []
        [unsorted] [] .warn).valid = false := by
      decide +kernel
    have hverdict := hverdicts.1
    rw [hinvalid] at hverdict
    exact ⟨_, _, hlenient, hstrict, hverdict, hvalid⟩

end CatalogLint
