import CatalogLint.Proofs.Run.Switches
import CatalogLint.Proofs.Template.Exclusions

/-! # Runs with other exclusions

    The exclusions of a run reach the search for literal text and nothing else.  So options
    that differ in their exclusions alone agree on all rules but that one
    (`agreeOn_exclusions`), and one more excluded text takes the findings about it out of a
    whole run (`findings_runCompiled_exclude`), since no other phase reports any
    (`filter_isAbout_eq_self`). -/

namespace CatalogLint

open Finding Template

variable {options : Options} {member : String}

/-! ## Other rules -/

/-- Options that differ in their exclusions agree on all rules but literal text. -/
theorem agreeOn_exclusions (options : Options) (exclusions : SortedSet) :
    AgreeOn (· ≠ .untranslatedText) options { options with exclusions } where
  indentUnit := rfl
  catalogExtension := rfl
  forbiddenPatterns := rfl
  pairs := fun _ _ _ _ => rfl
  templates := by
    intro known file
    simp only [fileFindings, restrict_append]
    refine congrArg _ ?_
    show restrict _ (if options.checkTemplates then _ else _) = restrict _ _
    split
    · rw [(allFrom_literalFindings _ _ _).restrict_eq_nil rfl,
        (allFrom_literalFindings _ _ _).restrict_eq_nil rfl]
    · rfl

/-! ## One more excluded text -/

/-- The options with one more excluded text. -/
def Options.exclude (options : Options) (member : String) : Options :=
  { options with exclusions := options.exclusions.insert member }

open Classical in
/-- Findings under other rules are about no literal text. -/
theorem filter_isAbout_eq_self {findings : List Finding}
    (h : ∀ finding ∈ findings, finding.category ≠ .untranslatedText) (member : String) :
    findings.filter (¬ IsAbout · member) = findings := by
  refine List.filter_eq_self.mpr fun finding hmem => ?_
  rw [decide_eq_true_iff]
  rintro ⟨hcategory, -⟩
  exact h finding hmem hcategory

open Classical in
/-- One more excluded text takes the findings about it out of those about a template. -/
theorem fileFindings_exclude (options : Options) (member : String) (known : KnownKeys)
    (file : SourceFile) :
    fileFindings (options.exclude member) known file
      = (fileFindings options known file).filter (¬ IsAbout · member) := by
  have hother : ∀ {rule : Category} {findings : List Finding}, AllFrom rule findings →
      rule ≠ .untranslatedText → findings.filter (¬ IsAbout · member) = findings := by
    intro rule findings hrule hne
    exact filter_isAbout_eq_self (fun finding hmem => hrule finding hmem ▸ hne) member
  have hliteral : (if (options.exclude member).checkTemplates then
        literalFindings (options.exclude member).exclusions file.name (visibleText file) else [])
      = (if options.checkTemplates then
          literalFindings options.exclusions file.name (visibleText file) else []).filter
        (¬ IsAbout · member) := by
    show (if options.checkTemplates then _ else _) = _
    split
    · exact literalFindings_insert options.exclusions member file.name (visibleText file)
    · rfl
  rw [fileFindings, fileFindings, hliteral]
  simp only [List.filter_append]
  rw [hother (allFrom_mixedFindings _ _) (by decide),
    hother (allFrom_unknownFindings _ _) (by decide),
    hother (allFrom_malformedFindings _ _) (by decide)]

/-- No finding about a catalog is about literal text. -/
theorem category_ne_of_mem_catalogFindings {compiled : List (String × List CompiledPattern)}
    {catalogs : List SourceFile} {finding : Finding}
    (h : finding ∈ catalogFindings options compiled catalogs) :
    finding.category ≠ .untranslatedText := by
  intro hcategory
  have hrule := isCatalogRule_of_mem_catalogFindings h
  rw [hcategory] at hrule
  exact nomatch hrule

/-- The findings about the catalogs one by one do not depend on the exclusions. -/
theorem catalogFindings_exclude (options : Options) (member : String)
    (compiled : List (String × List CompiledPattern)) (catalogs : List SourceFile) :
    catalogFindings (options.exclude member) compiled catalogs
      = catalogFindings options compiled catalogs := by
  have hother : ∀ options : Options, restrict (· ≠ .untranslatedText)
      (catalogFindings options compiled catalogs) = catalogFindings options compiled catalogs :=
    fun options => restrict_eq_self fun finding hmem =>
      decide_eq_true (category_ne_of_mem_catalogFindings hmem)
  rw [← hother, ← hother options]
  exact (agreeOn_exclusions options _).restrict_catalogFindings compiled catalogs

open Classical in
/-- One more excluded text takes the findings about it out of those of the later phases. -/
theorem laterFindings_exclude (options : Options) (member : String) (parsed : List ParsedCatalog)
    (templates : List SourceFile) :
    laterFindings (options.exclude member) parsed templates
      = (laterFindings options parsed templates).filter (¬ IsAbout · member) := by
  have hlanguages : languagesWithoutCatalog (options.exclude member) parsed
      = languagesWithoutCatalog options parsed := rfl
  have hcoherence : ∀ finding ∈ Coherence.checkAll parsed,
      finding.category ≠ .untranslatedText := by
    intro finding hmem hcategory
    have hrule := (Coherence.of_mem_checkAll hmem).2
    rw [hcategory] at hrule
    exact nomatch hrule
  rw [laterFindings, laterFindings, hlanguages]
  split
  · rw [List.filter_append, filter_isAbout_eq_self hcoherence, templateFindings, templateFindings,
      List.filter_flatMap]
    refine congrArg (_ ++ ·) (List.flatMap_congr fun file _ => ?_)
    exact fileFindings_exclude options member _ file
  · rfl

open Classical in
/-- **One more excluded text takes the findings about it out of a whole run.** -/
theorem findings_runCompiled_exclude (options : Options) (member : String)
    (compiled : List (String × List CompiledPattern)) (catalogs templates : List SourceFile)
    (policy : UnusedKeyPolicy) :
    (runCompiled (options.exclude member) compiled catalogs templates policy).findings
      = (runCompiled options compiled catalogs templates policy).findings.filter
          (¬ IsAbout · member) := by
  have hagree : AgreeOn (· ≠ .untranslatedText) options (options.exclude member) :=
    agreeOn_exclusions options _
  have hlanguage : ∀ finding ∈ languageFindings options (parsedCatalogs options compiled catalogs),
      finding.category ≠ .untranslatedText := by
    intro finding hmem
    rw [category_of_mem_languageFindings hmem]
    exact nofun
  have hpolicy : ∀ finding ∈ (runPolicyCalls options (parsedCatalogs options compiled catalogs)
      templates).flatMap policy.findings, finding.category ≠ .untranslatedText := by
    intro finding hmem
    obtain ⟨unused, -, hfinding⟩ := List.mem_flatMap.mp hmem
    rw [category_of_mem_policyFindings hfinding]
    exact nofun
  rw [findings_runCompiled, findings_runCompiled, hagree.parsedCatalogs_eq,
    hagree.languageFindings_eq, hagree.runPolicyCalls_eq, catalogFindings_exclude,
    laterFindings_exclude, List.filter_append, List.filter_append, List.filter_append,
    filter_isAbout_eq_self fun _ => category_ne_of_mem_catalogFindings,
    filter_isAbout_eq_self hlanguage, filter_isAbout_eq_self hpolicy]

/-! ## The law -/

open Classical in
/-- **Exclusions silence their own text and nothing else.**  One more excluded text takes away
    the findings whose candidates (values of attributes, texts between tags, quoted texts) come
    to it when they are cleaned; those that are left keep their order.  So more exclusions leave
    less, and the union of two sets leaves what both of them leave.  In a whole run the same
    holds of its record, and other exclusions do not change the findings of any other rule. -/
theorem exclusions_silence_their_own_text (exclusions exclusions' : SortedSet) (member : String) :
    (∀ name text,
      literalFindings (exclusions.insert member) name text
          = (literalFindings exclusions name text).filter (¬ IsAbout · member)
        ∧ ((∀ other, exclusions.contains other = true → exclusions'.contains other = true) →
            (literalFindings exclusions' name text).Sublist
              (literalFindings exclusions name text))
        ∧ literalFindings (exclusions.union exclusions') name text
          = (literalFindings exclusions name text).filter
              (· ∈ literalFindings exclusions' name text))
      ∧ ∀ (read? : PatternReader) (options : Options) catalogs templates policy,
        RunsRelated
          (fun outcome silenced =>
            silenced.findings = outcome.findings.filter (¬ IsAbout · member))
          (runOn read? options catalogs templates policy)
          (runOn read? (options.exclude member) catalogs templates policy)
        ∧ RunsRelated
          (fun outcome changed =>
            changed.findings.filter (·.category ≠ .untranslatedText)
              = outcome.findings.filter (·.category ≠ .untranslatedText))
          (runOn read? options catalogs templates policy)
          (runOn read? { options with exclusions } catalogs templates policy) := by
  constructor
  · intro name text
    refine ⟨literalFindings_insert exclusions member name text, ?_, ?_⟩
    · intro hmore
      exact literalFindings_sublist hmore name text
    · exact literalFindings_union exclusions exclusions' name text
  · intro read? options catalogs templates policy
    constructor
    · refine runsRelated_runOn rfl fun compiled => ?_
      exact findings_runCompiled_exclude options.normalized member compiled catalogs templates
        policy
    · refine runsRelated_runOn rfl fun compiled => ?_
      exact (agreeOn_exclusions options.normalized exclusions).restrict_findings_runCompiled
        compiled catalogs templates policy

/-- Of three texts one is excluded, and a second one as well in a larger set. -/
theorem a_larger_set_silences_one_more_text :
    let content := "<a title=\"todo\"></a><p>no&nbsp;</p>\x7b\x7b 'yes' \x7d\x7d".toList
    let exclusions := SortedSet.ofList ["todo"]
    let exclusions' := SortedSet.ofList ["no", "todo"]
    (literalFindings exclusions' "view.html" content).Sublist
        (literalFindings exclusions "view.html" content)
      ∧ (literalFindings exclusions "view.html" content).map (·.message)
        = ["Non-translated text between mark-ups in view.html: \"no\"",
            "Non-translated text might have been forgotten in view.html: \"yes\""]
      ∧ (literalFindings exclusions' "view.html" content).map (·.message)
        = ["Non-translated text might have been forgotten in view.html: \"yes\""] := by
  intro content exclusions exclusions'
  have hmore : ∀ other, exclusions.contains other = true → exclusions'.contains other = true := by
    intro other hother
    have htodo : other = "todo" := by
      rw [SortedSet.contains, List.contains_iff_mem] at hother
      exact List.mem_singleton.mp hother
    rw [htodo]
    decide
  have hlaw := (exclusions_silence_their_own_text exclusions exclusions' "no").1 "view.html" content
  refine ⟨hlaw.2.1 hmore, ?_, ?_⟩
  · decide +kernel
  · decide +kernel

end CatalogLint
