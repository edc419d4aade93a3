import CatalogLint.Proofs.Run.Phases
import CatalogLint.Proofs.Text.ByteOrder

/-! # Languages without a catalog

    The forbidden patterns are listed by language, and a language that no catalog is for
    is a mistake in the options.  A run reports each such language once and goes no
    further: nothing is compared, no template is looked at, and nobody is asked about
    unused keys (`languages_without_catalog_stop_the_run`). -/

namespace CatalogLint

variable {options : Options} {compiled : List (String × List CompiledPattern)}
variable {catalogs templates : List SourceFile} {policy : UnusedKeyPolicy}

/-! ## Which languages they are -/

/-- A catalog has the language that its file is named for. -/
theorem any_language_parsedCatalogs (language : String) :
    ((parsedCatalogs options compiled catalogs).any (·.language == language)) = true
      ↔ ∃ file ∈ catalogs, file.stem = language := by
  rw [parsedCatalogs, List.any_map, List.any_eq_true]
  refine exists_congr fun file => and_congr_right fun _ => ?_
  rw [Function.comp_apply, beq_iff_eq]
  rfl

/-- The languages without a catalog are those that are the name of no catalog file. -/
theorem languagesWithoutCatalog_parsedCatalogs :
    languagesWithoutCatalog options (parsedCatalogs options compiled catalogs)
      = options.forbiddenPatterns.keys.filter fun language =>
          decide (∀ file ∈ catalogs, file.stem ≠ language) := by
  refine List.filter_congr fun language _ => ?_
  rw [Bool.eq_iff_iff, Bool.not_eq_true', ← Bool.not_eq_true, any_language_parsedCatalogs,
    decide_eq_true_iff]
  constructor
  · intro hnone file hfile heq
    exact hnone ⟨file, hfile, heq⟩
  · rintro hnone ⟨file, hfile, heq⟩
    exact hnone file hfile heq

/-- The languages of the forbidden patterns come in the order of their bytes. -/
theorem pairwise_languages (options : Options) :
    options.forbiddenPatterns.keys.Pairwise (Text.utf8Bytes · < Text.utf8Bytes ·) :=
  options.forbiddenPatterns.sorted.imp Text.utf8Bytes_lt

/-! ## What is reported about them -/

/-- No catalog rule is about the configuration, nor about a later phase. -/
theorem not_later_of_isCatalogRule {rule : Category} (h : Catalog.isCatalogRule rule = true) :
    rule ≠ .configuration ∧ Coherence.isCoherenceRule rule = false
      ∧ Template.isTemplateRule rule = false ∧ rule ≠ .unusedKey := by
  cases rule <;> first | decide | exact nomatch h

/-- The later phases do not report on the configuration. -/
theorem category_ne_of_mem_laterFindings {parsed : List ParsedCatalog} {finding : Finding}
    (h : finding ∈ laterFindings options parsed templates) :
    finding.category ≠ .configuration := by
  intro hrule
  rcases of_mem_laterFindings h with hcoherence | ⟨file, -, hfile⟩
  · have hother := (Coherence.of_mem_checkAll hcoherence).2
    rw [hrule] at hother
    exact nomatch hother
  · have hother := Template.of_mem_fileFindings hfile
    rw [hrule] at hother
    exact nomatch hother

/-- **What a run reports on the configuration is what it reports on languages.** -/
theorem filter_configuration_runCompiled (options : Options)
    (compiled : List (String × List CompiledPattern)) (catalogs templates : List SourceFile)
    (policy : UnusedKeyPolicy) :
    (runCompiled options compiled catalogs templates policy).findings.filter
        (·.category = .configuration)
      = languageFindings options (parsedCatalogs options compiled catalogs) := by
  have hnone : ∀ {findings : List Finding},
      (∀ finding ∈ findings, finding.category ≠ .configuration) →
        findings.filter (·.category = .configuration) = [] := by
    intro findings h
    refine List.filter_eq_nil_iff.mpr fun finding hmem => ?_
    rw [decide_eq_true_iff]
    exact h finding hmem
  have hlanguages : Finding.AllFrom .configuration
      (languageFindings options (parsedCatalogs options compiled catalogs)) :=
    fun _ => category_of_mem_languageFindings
  rw [findings_runCompiled, List.filter_append, List.filter_append, List.filter_append,
    hlanguages.filter_self, hnone, hnone, hnone, List.nil_append, List.append_nil,
    List.append_nil]
  · intro finding h
    obtain ⟨unused, -, hunused⟩ := List.mem_flatMap.mp h
    rw [category_of_mem_policyFindings hunused]
    decide
  · exact fun finding => category_ne_of_mem_laterFindings
  · exact fun finding h => (not_later_of_isCatalogRule (isCatalogRule_of_mem_catalogFindings h)).1

/-! ## Runs that stop -/

section Stopped

variable (h : languagesWithoutCatalog options (parsedCatalogs options compiled catalogs) ≠ [])
include h

/-- A run that stops reports on the catalogs one by one and on languages, and on nothing
    else. -/
theorem findings_runCompiled_of_stopped :
    (runCompiled options compiled catalogs templates policy).findings
      = catalogFindings options compiled catalogs
        ++ languageFindings options (parsedCatalogs options compiled catalogs) := by
  rw [findings_runCompiled, laterFindings, runPolicyCalls, if_neg h, if_neg h, List.append_nil,
    List.flatMap_nil, List.append_nil]

/-- A run that stops comes to the same whatever the policy about unused keys. -/
theorem runCompiled_congr_of_stopped (policy' : UnusedKeyPolicy) :
    runCompiled options compiled catalogs templates policy'
      = runCompiled options compiled catalogs templates policy := by
  have hparsed : (catalogs.map (Catalog.checkFile options compiled)).map Prod.fst
      = parsedCatalogs options compiled catalogs := List.map_map
  have hstop : (languagesWithoutCatalog options
      (parsedCatalogs options compiled catalogs)).isEmpty = false :=
    List.isEmpty_eq_false_iff.mpr h
  rw [runCompiled, runCompiled, checkPhases, checkPhases, hparsed, hstop]
  rfl

/-- A run that stops is not valid. -/
theorem not_valid_of_stopped :
    (runCompiled options compiled catalogs templates policy).valid = false := by
  obtain ⟨language, rest, hcons⟩ := List.exists_cons_of_ne_nil h
  have hmem : configurationFinding options language ∈
      (runCompiled options compiled catalogs templates policy).findings := by
    rw [findings_runCompiled_of_stopped h, languageFindings, hcons]
    exact List.mem_append_right _ List.mem_cons_self
  rw [← Bool.not_eq_true, valid_runCompiled, isValid_iff, statistics_runCompiled]
  rintro ⟨hnone, -⟩
  exact countP_isError_eq_zero.mp hnone _ hmem rfl

end Stopped

/-! ## Whole runs -/

/-- **Languages without a catalog stop the run.**  With patterns that are right, and
    whatever the catalogs, the templates and the policy, what a run reports on the
    configuration is one error for each language of the forbidden patterns that is the name
    of no catalog file, in the order of the bytes of the languages, whether the language
    has patterns or not.  If there is such a language, these errors follow the findings
    about the catalogs one by one and nothing follows them; the run is not valid, and the
    policy is not asked and makes no difference to it.  If there is none, the run reports on
    the catalogs one by one, then on their coherence, and then all that the check of the
    templates does. -/
theorem languages_without_catalog_stop_the_run {read? : PatternReader}
    (h : options.normalized.compile read? = .ok compiled)
    (catalogs templates : List SourceFile) (policy : UnusedKeyPolicy) :
    let missing := options.forbiddenPatterns.keys.filter fun language =>
      decide (∀ file ∈ catalogs, file.stem ≠ language)
    let reported : List Finding := missing.map fun language =>
      { category := .configuration
        severity := .error
        message := "\"" ++ language ++ "." ++ options.normalized.catalogExtension
          ++ "\" was not found. The forbidden patterns key \"" ++ language ++ "\" is invalid."
        line := none
        file := none }
    let aboutCatalogs := catalogs.flatMap fun file =>
      (Catalog.checkFile options.normalized compiled file).2
    let parsed := catalogs.map fun file => (Catalog.checkFile options.normalized compiled file).1
    missing.Pairwise (Text.utf8Bytes · < Text.utf8Bytes ·)
    ∧ ∃ outcome, runOn read? options catalogs templates policy = .ok outcome
      ∧ outcome.findings.filter (·.category = .configuration) = reported
      ∧ (missing ≠ [] →
          outcome.findings = aboutCatalogs ++ reported
          ∧ (∀ finding ∈ outcome.findings,
              Coherence.isCoherenceRule finding.category = false
              ∧ Template.isTemplateRule finding.category = false
              ∧ finding.category ≠ .unusedKey)
          ∧ (∀ policy', runOn read? options catalogs templates policy' = .ok outcome)
          ∧ (∀ before, ∃ reached after,
              executeOn read? options catalogs templates policy before = .ok reached after
              ∧ after.questions = before.questions)
          ∧ outcome.valid = false)
      ∧ (missing = [] →
          outcome.findings
            = aboutCatalogs ++ Coherence.checkAll parsed
              ++ (Template.checkAll options.normalized (KnownKeys.ofCatalogs parsed) policy
                  templates {}).1.findings.toList) := by
  intro missing reported aboutCatalogs parsed
  have hmissing : languagesWithoutCatalog options.normalized
      (parsedCatalogs options.normalized compiled catalogs) = missing :=
    languagesWithoutCatalog_parsedCatalogs
  have hreported : languageFindings options.normalized
      (parsedCatalogs options.normalized compiled catalogs) = reported :=
    congrArg (List.map (configurationFinding options.normalized)) hmissing
  refine ⟨(pairwise_languages options).sublist List.filter_sublist, _,
    runOn_eq h catalogs templates policy, ?_, ?_, ?_⟩
  · exact (filter_configuration_runCompiled ..).trans hreported
  · intro hstop
    rw [← hmissing] at hstop
    refine ⟨?_, ?_, ?_, ?_, not_valid_of_stopped hstop⟩
    · rw [findings_runCompiled_of_stopped hstop, hreported]
      rfl
    · intro finding hmem
      rw [findings_runCompiled_of_stopped hstop] at hmem
      rcases List.mem_append.mp hmem with hcatalog | hlanguage
      · exact (not_later_of_isCatalogRule (isCatalogRule_of_mem_catalogFindings hcatalog)).2
      · rw [category_of_mem_languageFindings hlanguage]
        decide
    · intro policy'
      rw [runOn_eq h, runCompiled_congr_of_stopped hstop policy']
    · intro before
      obtain ⟨after, hexecute, -, hquestions⟩ :=
        executeOn_eq_ok h catalogs templates policy before
      rw [runPolicyCalls, if_neg hstop, List.append_nil] at hquestions
      exact ⟨_, after, hexecute, Array.toList_inj.mp hquestions⟩
  · intro hnone
    rw [← hmissing] at hnone
    rw [findings_runCompiled, laterFindings, runPolicyCalls, if_pos hnone, if_pos hnone,
      languageFindings, hnone, List.map_nil, List.append_nil, Template.findings_checkAll]
    simp only [List.append_assoc]
    rfl

/-- A run with catalogs in English only, one of which has a line that is malformed.  German
    has no patterns and French has one: both are reported, and the key that the template
    does not know is not. -/
theorem german_and_french_stop_the_run :
    let options : Options :=
      { forbiddenPatterns := .ofList [("fr", [⟨"x", true, "no x"⟩]), ("en", []), ("de", [])] }
    let catalogs : List SourceFile :=
      [⟨"a/en.json", "a/en.json", "\"A\": \"x\""⟩, ⟨"b/en.json", "b/en.json", "A: x"⟩]
    let templates : List SourceFile := [⟨"t.html", "t.html", "<p translate=\"B\"></p>"⟩]
    ∃ compiled outcome, options.normalized.compile Pattern.read? = .ok compiled
      ∧ (∀ policy, runOn Pattern.read? options catalogs templates policy = .ok outcome)
      ∧ outcome.findings.map (·.category) = [.malformedLine, .configuration, .configuration]
      ∧ outcome.findings.filter (·.category = .configuration)
        = [⟨.configuration, .error,
            "\"de.json\" was not found. The forbidden patterns key \"de\" is invalid.", none, none⟩,
          ⟨.configuration, .error,
            "\"fr.json\" was not found. The forbidden patterns key \"fr\" is invalid.", none, none⟩]
      ∧ outcome.valid = false := by
  intro options catalogs templates
  have hcompile : options.normalized.compile Pattern.read?
      = .ok ((options.compileForbidden Pattern.read?).toOption.getD []) :=
    compile_read?_eq_ok rfl rfl
  obtain ⟨-, outcome, -, hconfiguration, hstop, -⟩ :=
    languages_without_catalog_stop_the_run hcompile catalogs templates .warn
  obtain ⟨hfindings, -, hpolicy, -, hvalid⟩ := hstop (by decide +kernel)
  refine ⟨_, outcome, hcompile, hpolicy, ?_, ?_, hvalid⟩
  · rw [hfindings]
    decide +kernel
  · rw [hconfiguration]
    decide +kernel

end CatalogLint
