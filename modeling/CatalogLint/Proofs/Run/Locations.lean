import CatalogLint.Proofs.Run.Phases
import CatalogLint.Proofs.Template.Comments

/-! # Places of findings

    A finding about a catalog or a template points into the file it was found in: it has
    the name of the file, and its line is one of those of the file as it was read
    (`Finding.PointsInto`).  For a catalog the line is counted while the lines are checked;
    for a template it is found by line feeds, in a text whose comments are gone and which has
    as many of them as the file.  What is reported about several files at once, or about no
    file at all, has no line.

    * `pointsInto_of_mem_checkFile`, `pointsInto_of_mem_fileFindings`: the findings about
      one file;
    * `locations_point_into_their_sources`: the findings of a run. -/

namespace CatalogLint

open Text

variable {options : Options} {compiled : List (String × List CompiledPattern)}
variable {source : SourceFile} {finding : Finding}

/-- The finding has the name of a source and the number of one of its lines. -/
structure Finding.PointsInto (finding : Finding) (source : SourceFile) : Prop where
  file : finding.file = some source.name
  line : ∃ number, finding.line = some number ∧ 1 ≤ number
    ∧ number ≤ (source.content.toList.splitOn '\n').length

/-- A finding that points into a source has a line. -/
theorem Finding.PointsInto.line_ne_none (h : finding.PointsInto source) :
    finding.line ≠ none := by
  obtain ⟨number, hnumber, -⟩ := h.line
  rw [hnumber]
  exact Option.some_ne_none number

/-! ## Catalogs -/

namespace Catalog

/-- What is reported about a catalog points to one of its lines. -/
theorem pointsInto_of_mem_checkFile (h : finding ∈ (checkFile options compiled source).2) :
    finding.PointsInto source := by
  rw [checkFile_snd] at h
  obtain ⟨reported, hmem, rfl⟩ := List.mem_map.mp h
  obtain ⟨number, hnumber, hfirst, hlast⟩ := line_of_mem_checkLines hmem
  exact ⟨rfl, number, hnumber, hfirst, by omega⟩

/-- A catalog is reported on from its first line to its last. -/
theorem pairwise_line_checkFile (options : Options)
    (compiled : List (String × List CompiledPattern)) (source : SourceFile) :
    (checkFile options compiled source).2.Pairwise fun first second =>
      ∀ m n, first.line = some m → second.line = some n → m ≤ n := by
  rw [checkFile_snd, List.pairwise_map]
  exact pairwise_line_checkLines ..

end Catalog

/-! ## Templates -/

namespace Template

/-- What a sweep over a template finds lies on a line of the template, although the sweep
    does not see the comments. -/
theorem pointsInto_of_mem_sweep {α : Type} {scan : Scanner α} {found : Located α}
    (h : found ∈ sweep scan (visibleText source)) (finding : Finding) :
    ((finding.atLine found.line).inFile source.name).PointsInto source := by
  obtain ⟨hfirst, hlast⟩ := line_of_mem_sweep h
  rw [length_splitOn_feed, visibleText, lineFeeds_stripComments, ← length_splitOn_feed] at hlast
  exact ⟨rfl, found.line, rfl, hfirst, hlast⟩

/-- A reference has been found by one of two sweeps. -/
theorem of_mem_references {text : List Char} {reference : Reference}
    (h : reference ∈ references text) :
    ∃ scan, ∃ found ∈ sweep scan text, toReference found = reference := by
  rcases List.mem_append.mp h with hdirective | hfilter
  · exact ⟨scanDirective, List.mem_map.mp hdirective⟩
  · exact ⟨scanFilter, List.mem_map.mp hfilter⟩

/-- A candidate has been found by one of four sweeps. -/
theorem of_mem_candidates {name : String} {text : List Char} {found : Located Candidate}
    (h : found ∈ candidates name text) : ∃ scan, found ∈ sweep scan text := by
  rcases List.mem_append.mp h with hmarkup | hquoted
  · rcases List.mem_append.mp hmarkup with hvalue | hnode
    · rcases List.mem_append.mp hvalue with halt | htitle
      · exact ⟨_, halt⟩
      · exact ⟨_, htitle⟩
    · exact ⟨_, hnode⟩
  · exact ⟨_, hquoted⟩

/-- A reference to an unknown key is reported where the reference is. -/
theorem pointsInto_of_mem_unknownFindings {known : KnownKeys}
    (h : finding ∈ unknownFindings known source) : finding.PointsInto source := by
  obtain ⟨reference, hmem, rfl⟩ := List.mem_map.mp h
  obtain ⟨scan, found, hfound, rfl⟩ := of_mem_references (List.mem_filter.mp hmem).1
  exact pointsInto_of_mem_sweep hfound _

/-- Literal text is reported where the text is. -/
theorem pointsInto_of_mem_literalFindings {exclusions : SortedSet}
    (h : finding ∈ literalFindings exclusions source.name (visibleText source)) :
    finding.PointsInto source := by
  obtain ⟨found, hmem, rfl⟩ := List.mem_map.mp h
  obtain ⟨scan, hfound⟩ := of_mem_candidates (List.mem_filter.mp hmem).1
  exact pointsInto_of_mem_sweep hfound _

/-- What is reported about a template points to one of its lines. -/
theorem pointsInto_of_mem_fileFindings {known : KnownKeys}
    (h : finding ∈ fileFindings options known source) : finding.PointsInto source := by
  rcases List.mem_append.mp h with hreferences | hliteral
  · rcases List.mem_append.mp hreferences with hkeys | hmalformed
    · rcases List.mem_append.mp hkeys with hmixed | hunknown
      · obtain ⟨found, hfound, rfl⟩ := List.mem_map.mp hmixed
        exact pointsInto_of_mem_sweep hfound _
      · exact pointsInto_of_mem_unknownFindings hunknown
    · obtain ⟨found, hmem, rfl⟩ := List.mem_map.mp hmalformed
      exact pointsInto_of_mem_sweep (List.mem_filter.mp hmem).1 _
  · split at hliteral
    · exact pointsInto_of_mem_literalFindings hliteral
    · exact nomatch hliteral

end Template

/-! ## Findings without a line -/

/-- The rules that are about no line of a file: those of the comparison of catalogs, of
    the configuration and of unused keys. -/
def rulesWithoutLine : List Category :=
  [.missingKey, .extraKey, .markupMismatch, .configuration, .unusedKey]

/-- The rules of the comparison of catalogs are among them. -/
theorem mem_rulesWithoutLine_of_isCoherenceRule {rule : Category}
    (h : Coherence.isCoherenceRule rule = true) : rule ∈ rulesWithoutLine := by
  cases rule <;> first | decide | exact nomatch h

/-- The rules of a single catalog are not. -/
theorem notMem_rulesWithoutLine_of_isCatalogRule {rule : Category}
    (h : Catalog.isCatalogRule rule = true) : rule ∉ rulesWithoutLine := by
  cases rule <;> first | decide | exact nomatch h

/-- The rules of a template are not. -/
theorem notMem_rulesWithoutLine_of_isTemplateRule {rule : Category}
    (h : Template.isTemplateRule rule = true) : rule ∉ rulesWithoutLine := by
  cases rule <;> first | decide | exact nomatch h

/-- The comparison of two catalogs reports on no line. -/
theorem Coherence.line_of_mem_compareCatalogs {reference compared : ParsedCatalog}
    (h : finding ∈ compareCatalogs reference compared) : finding.line = none := by
  rcases List.mem_append.mp h with hkeys | hmarkup
  · rcases List.mem_append.mp hkeys with hmissing | hextra
    · obtain ⟨key, -, rfl⟩ := List.mem_map.mp hmissing
      rfl
    · obtain ⟨key, -, rfl⟩ := List.mem_map.mp hextra
      rfl
  · obtain ⟨key, -, hdiff⟩ := List.mem_flatMap.mp hmarkup
    obtain ⟨diff, -, rfl⟩ := List.mem_map.mp hdiff
    rfl

/-- The comparison of all catalogs reports on no line. -/
theorem Coherence.line_of_mem_checkAll {parsed : List ParsedCatalog}
    (h : finding ∈ checkAll parsed) : finding.line = none := by
  obtain ⟨group, -, hgroup⟩ := List.mem_flatMap.mp h
  cases group with
  | nil => exact nomatch hgroup
  | cons reference others =>
      obtain ⟨compared, -, hfinding⟩ := List.mem_flatMap.mp hgroup
      exact line_of_mem_compareCatalogs hfinding

/-- A policy about unused keys reports on no line. -/
theorem line_of_mem_policyFindings {policy : UnusedKeyPolicy} {unused : List String}
    (h : finding ∈ policy.findings unused) : finding.line = none :=
  (policy.warns unused finding h).line

/-! ## Whole runs -/

section Runs

variable {catalogs templates : List SourceFile} {policy : UnusedKeyPolicy}

/-- A finding of a run was found in a catalog or a template and has a line, or it has none and
    comes from one of the rules without. -/
theorem Reported.foundIn_or
    (h : Reported options compiled catalogs templates policy finding) :
    (∃ source,
        (source ∈ catalogs ∧ finding ∈ (Catalog.checkFile options compiled source).2
          ∨ source ∈ templates ∧ finding ∈ Template.fileFindings options
            (KnownKeys.ofCatalogs (parsedCatalogs options compiled catalogs)) source)
        ∧ finding.line ≠ none ∧ finding.category ∉ rulesWithoutLine)
      ∨ finding.line = none ∧ finding.category ∈ rulesWithoutLine := by
  cases h with
  | @catalog source hsource hmem =>
      have hrule := Catalog.isCatalogRule_of_mem_checkFile hmem
      exact Or.inl ⟨source, Or.inl ⟨hsource, hmem⟩,
        (Catalog.pointsInto_of_mem_checkFile hmem).line_ne_none,
        notMem_rulesWithoutLine_of_isCatalogRule hrule⟩
  | language hmem =>
      have hrule := category_of_mem_languageFindings hmem
      obtain ⟨language, -, rfl⟩ := List.mem_map.mp hmem
      exact Or.inr ⟨rfl, hrule ▸ by decide⟩
  | coherence hmem =>
      have hrule := (Coherence.of_mem_checkAll hmem).2
      exact Or.inr ⟨Coherence.line_of_mem_checkAll hmem,
        mem_rulesWithoutLine_of_isCoherenceRule hrule⟩
  | @template source hsource hmem =>
      have hrule := Template.of_mem_fileFindings hmem
      exact Or.inl ⟨source, Or.inr ⟨hsource, hmem⟩,
        (Template.pointsInto_of_mem_fileFindings hmem).line_ne_none,
        notMem_rulesWithoutLine_of_isTemplateRule hrule⟩
  | policy hmem =>
      have hrule := category_of_mem_policyFindings hmem
      exact Or.inr ⟨line_of_mem_policyFindings hmem, hrule ▸ by decide⟩

/-- **Every location points into the file it names.**  A finding of a run that has a line
    was found in one of the catalogs or templates of the run.  Whatever was found in one of
    them has the name of that file, and its line is one of the lines of the file as it was
    read, comments included.  The findings about the catalogs stand at the start of the
    record, catalog by catalog, and within those of one catalog the lines never decrease.
    The findings without a line are exactly those about the coherence of the catalogs, the
    configuration and unused keys. -/
theorem locations_point_into_their_sources {read? : PatternReader} {outcome : RunOutcome}
    (h : runOn read? options catalogs templates policy = .ok outcome) :
    ∃ compiled, options.normalized.compile read? = .ok compiled ∧
      let aboutCatalog := fun source : SourceFile =>
        (Catalog.checkFile options.normalized compiled source).2
      let aboutTemplate :=
        Template.fileFindings options.normalized (KnownKeys.ofCatalogs outcome.catalogs)
      let foundIn := fun (finding : Finding) (source : SourceFile) =>
        source ∈ catalogs ∧ finding ∈ aboutCatalog source
          ∨ source ∈ templates ∧ finding ∈ aboutTemplate source
      -- the findings with a line
      (∀ finding ∈ outcome.findings, finding.line ≠ none → ∃ source, foundIn finding source)
      ∧ (∀ finding source, foundIn finding source →
          finding.file = some source.name
          ∧ ∃ line, finding.line = some line
            ∧ 1 ≤ line ∧ line ≤ (source.content.toList.splitOn '\n').length)
      -- the findings about one catalog
      ∧ catalogs.flatMap aboutCatalog <+: outcome.findings
      ∧ (∀ source ∈ catalogs, (aboutCatalog source).Pairwise fun first second =>
          ∀ m n, first.line = some m → second.line = some n → m ≤ n)
      -- the findings without a line
      ∧ (∀ finding ∈ outcome.findings,
          finding.line = none
            ↔ finding.category ∈ [.missingKey, .extraKey, .markupMismatch, .configuration,
              .unusedKey]) := by
  obtain ⟨compiled, hcompile, rfl⟩ := of_runOn_eq_ok h
  rw [catalogs_runCompiled]
  refine ⟨compiled, hcompile, ?_, ?_, ?_, ?_, ?_⟩
  · intro finding hmem hline
    rcases (reported_of_mem_findings hmem).foundIn_or with ⟨source, hsource, -⟩ | hnone
    · exact ⟨source, hsource⟩
    · exact absurd hnone.1 hline
  · rintro finding source (⟨-, hcatalog⟩ | ⟨-, htemplate⟩)
    · have hpoints := Catalog.pointsInto_of_mem_checkFile hcatalog
      exact ⟨hpoints.file, hpoints.line⟩
    · have hpoints := Template.pointsInto_of_mem_fileFindings htemplate
      exact ⟨hpoints.file, hpoints.line⟩
  · rw [findings_runCompiled, List.append_assoc, List.append_assoc]
    exact List.prefix_append ..
  · intro source _
    exact Catalog.pairwise_line_checkFile options.normalized compiled source
  · intro finding hmem
    rcases (reported_of_mem_findings hmem).foundIn_or with ⟨source, -, hline, hrule⟩ | hnone
    · exact iff_of_false hline hrule
    · exact iff_of_true hnone.1 hnone.2

/-- A catalog with a key out of order and an open tag, and a template with a comment over two
    lines: the unknown key behind the comment is reported on the third line of the
    template, and the key that is not used has no place at all. -/
theorem locations_behind_a_comment :
    let catalog : SourceFile := ⟨"i18n/en.json", "en.json", "\x7b\n\"B\": \"x\"\n\"A\": \"<b>y\""⟩
    let template : SourceFile :=
      ⟨"t.html", "t.html", "<!-- one\ntwo --><p>\n <b translate=\"C\"></b> "
        ++ "\x7b\x7b 'A' | translate \x7d\x7d"⟩
    ∃ outcome, runOn Pattern.read? {} [catalog] [template] .warn = .ok outcome
      ∧ outcome.findings.map (fun finding => (finding.file, finding.line))
        = [(some "en.json", some 3), (some "en.json", some 3), (some "t.html", some 3),
          (none, none)]
      ∧ ∀ finding ∈ outcome.findings,
          finding.line = none
            ↔ finding.category ∈ [.missingKey, .extraKey, .markupMismatch, .configuration,
              .unusedKey] := by
  intro catalog template
  have hrun : runOn Pattern.read? {} [catalog] [template] .warn
      = .ok (runCompiled ({} : Options).normalized [] [catalog] [template] .warn) :=
    runOn_eq (compile_read?_eq_ok rfl rfl) ..
  obtain ⟨compiled, -, -, -, -, -, hnone⟩ := locations_point_into_their_sources hrun
  refine ⟨_, hrun, ?_, hnone⟩
  decide +kernel

end Runs

end CatalogLint
