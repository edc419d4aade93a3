import CatalogLint.Proofs.Coherence
import CatalogLint.Proofs.KnownKeys
import CatalogLint.Proofs.Run.Phases

/-! # A run does not depend on the order of discovery

    The first catalog of a directory is the reference for the others, so the findings
    about coherence, and even their number, change with the order in which the catalogs
    are found.  Whether there are any does not, and all that the other phases report is
    the same up to order.  `Alike` is the relation between two records that says so; it
    holds phase by phase (`alike_laterFindings`), and the verdict is read off it
    (`verdict_of_permuted_sources`). -/

namespace CatalogLint

open Finding

variable {options : Options} {compiled : List (String × List CompiledPattern)}
variable {catalogs catalogs' templates templates' : List SourceFile}

/-! ## The other phases -/

namespace Template

variable {known known' : KnownKeys}

/-- The findings about a template depend on which keys are known, not on their order. -/
theorem fileFindings_congr (options : Options) (h : known.keys.Perm known'.keys)
    (file : SourceFile) : fileFindings options known file = fileFindings options known' file := by
  have hcontains : ∀ key, known.contains key = known'.contains key := by
    intro key
    rw [KnownKeys.contains_eq_decide_mem, KnownKeys.contains_eq_decide_mem]
    exact decide_eq_decide.mpr h.mem_iff
  rw [fileFindings, fileFindings, unknownFindings, unknownFindings]
  simp only [hcontains]

/-- The findings about all templates are the same up to order. -/
theorem templateFindings_perm (options : Options) (h : known.keys.Perm known'.keys)
    (htemplates : templates.Perm templates') :
    (templateFindings options known templates).Perm (templateFindings options known' templates') := by
  have hfiles : fileFindings options known = fileFindings options known' :=
    funext (fileFindings_congr options h)
  rw [templateFindings, templateFindings, hfiles]
  exact htemplates.flatMap_right _

/-- The unused keys are the same up to order. -/
theorem unusedKeys_perm (h : known.keys.Perm known'.keys) (htemplates : templates.Perm templates') :
    (unusedKeys known templates).Perm (unusedKeys known' templates') := by
  rw [← unusedKeys_of_perm htemplates, unusedKeys_eq, unusedKeys_eq]
  exact h.filter _

/-- The warnings about unused keys, all of them in one call or none in no call. -/
theorem flatMap_policyCalls_warn (known : KnownKeys) (templates : List SourceFile) :
    (policyCalls known templates).flatMap UnusedKeyPolicy.warn.findings
      = (unusedKeys known templates).map unusedFinding := by
  rw [policyCalls]
  split
  · rename_i hnone
    rw [hnone]
    rfl
  · exact List.flatMap_singleton _ _

end Template

/-- Whether a language has a catalog does not depend on the order of the catalogs. -/
theorem languagesWithoutCatalog_of_perm {parsed parsed' : List ParsedCatalog}
    (options : Options) (h : parsed.Perm parsed') :
    languagesWithoutCatalog options parsed' = languagesWithoutCatalog options parsed := by
  refine List.filter_congr ?_
  intro language _
  rw [h.any_eq]

/-! ## Records that are alike -/

/-- A finding that does not come from the comparison of catalogs. -/
def apartFromCoherence (finding : Finding) : Bool :=
  !Coherence.isCoherenceRule finding.category

/-- Two records are alike: either both have an error or neither has, they have as many
    warnings, and apart from coherence they hold the same findings up to order. -/
structure Alike (first second : List Finding) : Prop where
  errors : first.any isError = second.any isError
  warnings : first.countP isWarning = second.countP isWarning
  others : (first.filter apartFromCoherence).Perm (second.filter apartFromCoherence)

/-- The same findings in another order are alike. -/
theorem Alike.of_perm {first second : List Finding} (h : first.Perm second) :
    Alike first second :=
  ⟨h.any_eq, h.countP_eq _, h.filter _⟩

/-- Records are alike if their parts are. -/
theorem Alike.append {first second first' second' : List Finding} (h : Alike first second)
    (h' : Alike first' second') : Alike (first ++ first') (second ++ second') := by
  refine ⟨?_, ?_, ?_⟩
  · rw [List.any_append, List.any_append, h.errors, h'.errors]
  · rw [List.countP_append, List.countP_append, h.warnings, h'.warnings]
  · rw [List.filter_append, List.filter_append]
    exact h.others.append h'.others

/-- The findings about coherence are errors, if there are any, and nothing else. -/
theorem alike_checkAll_of_nil_iff {parsed parsed' : List ParsedCatalog}
    (h : Coherence.checkAll parsed = [] ↔ Coherence.checkAll parsed' = []) :
    Alike (Coherence.checkAll parsed) (Coherence.checkAll parsed') := by
  have herrors : ∀ catalogs, (Coherence.checkAll catalogs).any isError
      = decide (Coherence.checkAll catalogs ≠ []) := by
    intro catalogs
    rw [Bool.eq_iff_iff, List.any_eq_true, decide_eq_true_iff]
    constructor
    · rintro ⟨finding, hmem, -⟩
      exact List.ne_nil_of_mem hmem
    · intro hne
      obtain ⟨finding, hmem⟩ := List.exists_mem_of_ne_nil _ hne
      refine ⟨finding, hmem, ?_⟩
      rw [isError, (Coherence.of_mem_checkAll hmem).1]
      rfl
  have hwarnings : ∀ catalogs, (Coherence.checkAll catalogs).countP isWarning = 0 := by
    intro catalogs
    rw [List.countP_eq_zero]
    intro finding hmem
    rw [isWarning, (Coherence.of_mem_checkAll hmem).1]
    exact Bool.false_ne_true
  have hothers : ∀ catalogs, (Coherence.checkAll catalogs).filter apartFromCoherence = [] := by
    intro catalogs
    rw [List.filter_eq_nil_iff]
    intro finding hmem
    rw [apartFromCoherence, (Coherence.of_mem_checkAll hmem).2]
    exact Bool.false_ne_true
  refine ⟨?_, ?_, ?_⟩
  · simp only [herrors, ne_eq, h]
  · rw [hwarnings, hwarnings]
  · rw [hothers, hothers]

/-! ## Permuted sources -/

/-- The catalogs are the same after their own check, up to order. -/
theorem parsedCatalogs_perm (options : Options)
    (compiled : List (String × List CompiledPattern)) (h : catalogs.Perm catalogs') :
    (parsedCatalogs options compiled catalogs).Perm (parsedCatalogs options compiled catalogs') :=
  h.map _

/-- The keys of the catalogs of a run are those they have values for. -/
theorem keysMatch_parsedCatalogs :
    ∀ catalog ∈ parsedCatalogs options compiled catalogs, catalog.KeysMatch := by
  intro catalog hmem
  obtain ⟨file, -, rfl⟩ := List.mem_map.mp hmem
  exact Catalog.keysMatch_checkFile options compiled file

/-- The later phases take place in both runs or in neither, and what they report is
    alike. -/
theorem alike_laterFindings (options : Options)
    (compiled : List (String × List CompiledPattern)) (hcatalogs : catalogs.Perm catalogs')
    (htemplates : templates.Perm templates') :
    Alike (laterFindings options (parsedCatalogs options compiled catalogs) templates)
      (laterFindings options (parsedCatalogs options compiled catalogs') templates') := by
  have hparsed := parsedCatalogs_perm options compiled hcatalogs
  rw [laterFindings, laterFindings, languagesWithoutCatalog_of_perm options hparsed]
  split
  · exact (alike_checkAll_of_nil_iff
      (Coherence.checkAll_eq_nil_of_perm keysMatch_parsedCatalogs hparsed)).append
      (Alike.of_perm (Template.templateFindings_perm options
        (KnownKeys.ofCatalogs_perm hparsed) htemplates))
  · exact Alike.of_perm (List.Perm.refl [])

/-- The warnings about unused keys are the same up to order. -/
theorem warnFindings_perm (options : Options)
    (compiled : List (String × List CompiledPattern)) (hcatalogs : catalogs.Perm catalogs')
    (htemplates : templates.Perm templates') :
    ((runPolicyCalls options (parsedCatalogs options compiled catalogs) templates).flatMap
        UnusedKeyPolicy.warn.findings).Perm
      ((runPolicyCalls options (parsedCatalogs options compiled catalogs') templates').flatMap
        UnusedKeyPolicy.warn.findings) := by
  have hparsed := parsedCatalogs_perm options compiled hcatalogs
  rw [runPolicyCalls, runPolicyCalls, languagesWithoutCatalog_of_perm options hparsed]
  split
  · rw [Template.flatMap_policyCalls_warn, Template.flatMap_policyCalls_warn]
    exact (Template.unusedKeys_perm (KnownKeys.ofCatalogs_perm hparsed) htemplates).map _
  · exact List.Perm.refl []

/-- The record of a run on the same sources in another order is alike. -/
theorem alike_findings (options : Options)
    (compiled : List (String × List CompiledPattern)) (hcatalogs : catalogs.Perm catalogs')
    (htemplates : templates.Perm templates') :
    Alike (runCompiled options compiled catalogs templates .warn).findings
      (runCompiled options compiled catalogs' templates' .warn).findings := by
  -- the languages come from the options, so their findings are even in the same order
  have hlanguages : languageFindings options (parsedCatalogs options compiled catalogs')
      = languageFindings options (parsedCatalogs options compiled catalogs) := by
    rw [languageFindings, languageFindings, languagesWithoutCatalog_of_perm options
      (parsedCatalogs_perm options compiled hcatalogs)]
  rw [findings_runCompiled, findings_runCompiled, hlanguages]
  refine Alike.append (Alike.append (Alike.append (Alike.of_perm ?_) (Alike.of_perm ?_)) ?_)
    (Alike.of_perm ?_)
  · exact hcatalogs.flatMap_right _
  · exact List.Perm.refl _
  · exact alike_laterFindings options compiled hcatalogs htemplates
  · exact warnFindings_perm options compiled hcatalogs htemplates

/-- With warnings for unused keys, verdict and counts of a run are read off its record and
    its sources. -/
theorem runCompiled_warn (options : Options)
    (compiled : List (String × List CompiledPattern)) (catalogs templates : List SourceFile) :
    let outcome := runCompiled options compiled catalogs templates .warn
    let parsed := parsedCatalogs options compiled catalogs
    outcome.valid = isValid options outcome.statistics.errors outcome.statistics.warnings false
    ∧ outcome.statistics =
      { catalogs := catalogs.length
        groups := (groupByDirectory ParsedCatalog.group parsed).length
        templates := templates.length
        keys := (KnownKeys.ofCatalogs parsed).keys.length
        errors := outcome.findings.countP isError
        warnings := outcome.findings.countP isWarning } := by
  intro outcome parsed
  have hfails : (runPolicyCalls options parsed templates).any UnusedKeyPolicy.warn.fails = false :=
    List.any_eq_false.mpr fun _ _ => Bool.false_ne_true
  have hvalid := valid_runCompiled options compiled catalogs templates .warn
  rw [hfails] at hvalid
  exact ⟨hvalid, statistics_runCompiled options compiled catalogs templates .warn⟩

/-- Two records that are alike have no errors at the same time. -/
theorem Alike.countP_isError_eq_zero_iff {first second : List Finding} (h : Alike first second) :
    first.countP isError = 0 ↔ second.countP isError = 0 := by
  rw [List.countP_eq_zero, List.countP_eq_zero, ← List.any_eq_false, ← List.any_eq_false, h.errors]

/-- **The verdict does not depend on the order of discovery.**  With patterns that are
    right, two runs on the same catalogs and the same templates in any orders come to the
    same verdict, with the same counts of catalogs, groups, templates, keys and warnings.
    Either both report an error or neither does, and apart from missing keys, extra keys and
    markup they report the same findings as often. -/
theorem verdict_of_permuted_sources {read? : PatternReader}
    (h : options.normalized.compile read? = .ok compiled)
    (hcatalogs : catalogs.Perm catalogs') (htemplates : templates.Perm templates') :
    ∃ first second,
      runOn read? options catalogs templates .warn = .ok first
      ∧ runOn read? options catalogs' templates' .warn = .ok second
      ∧ first.valid = second.valid
      ∧ first.statistics.catalogs = second.statistics.catalogs
      ∧ first.statistics.groups = second.statistics.groups
      ∧ first.statistics.templates = second.statistics.templates
      ∧ first.statistics.keys = second.statistics.keys
      ∧ first.statistics.warnings = second.statistics.warnings
      ∧ (first.statistics.errors = 0 ↔ second.statistics.errors = 0)
      ∧ (first.findings.filter fun finding => finding.category ≠ .missingKey
          ∧ finding.category ≠ .extraKey ∧ finding.category ≠ .markupMismatch).Perm
        (second.findings.filter fun finding => finding.category ≠ .missingKey
          ∧ finding.category ≠ .extraKey ∧ finding.category ≠ .markupMismatch) := by
  have hparsed := parsedCatalogs_perm options.normalized compiled hcatalogs
  have halike := alike_findings options.normalized compiled hcatalogs htemplates
  obtain ⟨hvalid, hstatistics⟩ := runCompiled_warn options.normalized compiled catalogs templates
  obtain ⟨hvalid', hstatistics'⟩ :=
    runCompiled_warn options.normalized compiled catalogs' templates'
  -- the three rules of the statement are the rules of the comparison of catalogs
  have hfilter : ∀ findings : List Finding,
      (findings.filter fun finding => finding.category ≠ .missingKey
        ∧ finding.category ≠ .extraKey ∧ finding.category ≠ .markupMismatch)
      = findings.filter apartFromCoherence := by
    intro findings
    refine List.filter_congr ?_
    intro finding _
    rw [apartFromCoherence]
    cases finding.category <;> rfl
  refine ⟨_, _, runOn_eq h catalogs templates .warn, runOn_eq h catalogs' templates' .warn,
    ?_, ?_, ?_, ?_, ?_, ?_, ?_, ?_⟩
  · rw [hvalid, hvalid', Bool.eq_iff_iff, isValid_iff, isValid_iff, hstatistics, hstatistics']
    show _ = 0 ∧ ¬ (_ ∧ 0 < _) ∧ _ ↔ _ = 0 ∧ ¬ (_ ∧ 0 < _) ∧ _
    rw [halike.countP_isError_eq_zero_iff, halike.warnings]
  · rw [hstatistics, hstatistics']
    exact hcatalogs.length_eq
  · rw [hstatistics, hstatistics']
    exact (length_groupByDirectory_of_perm hparsed).symm
  · rw [hstatistics, hstatistics']
    exact htemplates.length_eq
  · rw [hstatistics, hstatistics']
    exact (KnownKeys.ofCatalogs_perm hparsed).length_eq
  · rw [hstatistics, hstatistics']
    exact halike.warnings
  · rw [hstatistics, hstatistics']
    exact halike.countP_isError_eq_zero_iff
  · rw [hfilter, hfilter]
    exact halike.others

/-- Three catalogs of one directory, one of them without a key that the others have.  As
    the reference it makes the others report an extra key each, and behind another
    reference it misses the key once; the verdict is the same. -/
theorem verdict_of_swapped_sources :
    let options : Options :=
      { forbiddenPatterns := .ofList [("en", [⟨"x", true, "no x"⟩])] }
    let english : SourceFile := ⟨"en.json", "en.json", "\"A\": \"x\""⟩
    let german : SourceFile := ⟨"de.json", "de.json", "\"A\": \"y\",\n\"B\": \"z\""⟩
    let french : SourceFile := ⟨"fr.json", "fr.json", "\"A\": \"y\",\n\"B\": \"z\""⟩
    let first : SourceFile := ⟨"a.html", "a.html", ""⟩
    let second : SourceFile := ⟨"b.html", "b.html", "'A' | translate"⟩
    ∃ compiled outcome outcome', options.normalized.compile Pattern.read? = .ok compiled
      ∧ [english, german, french].Perm [german, english, french]
      ∧ [first, second].Perm [second, first]
      ∧ runOn Pattern.read? options [english, german, french] [first, second] .warn = .ok outcome
      ∧ runOn Pattern.read? options [german, english, french] [second, first] .warn = .ok outcome'
      ∧ outcome.statistics.errors = 2 ∧ outcome'.statistics.errors = 1
      ∧ outcome.valid = outcome'.valid
      ∧ outcome.statistics.warnings = outcome'.statistics.warnings := by
  intro options english german french first second
  have hcompile : options.normalized.compile Pattern.read?
      = .ok ((options.compileForbidden Pattern.read?).toOption.getD []) :=
    compile_read?_eq_ok rfl rfl
  have hcatalogs : [english, german, french].Perm [german, english, french] :=
    List.Perm.swap german english [french]
  have htemplates : [first, second].Perm [second, first] := List.Perm.swap second first []
  obtain ⟨outcome, outcome', hrun, hrun', hvalid, -, -, -, -, hwarnings, -⟩ :=
    verdict_of_permuted_sources hcompile hcatalogs htemplates
  obtain rfl := Except.ok.inj (hrun.symm.trans (runOn_eq hcompile ..))
  obtain rfl := Except.ok.inj (hrun'.symm.trans (runOn_eq hcompile ..))
  refine ⟨_, _, _, hcompile, hcatalogs, htemplates, hrun, hrun', ?_, ?_, hvalid, hwarnings⟩
  · decide +kernel
  · decide +kernel

end CatalogLint
