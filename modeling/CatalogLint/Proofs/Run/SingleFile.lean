import CatalogLint.Proofs.Run.Phases

/-! # A catalog on its own

    A catalog can be checked as one of many in a run, or on its own.  The two ways agree on
    what is reported about it and on what is kept of it (`catalog_on_its_own_agrees_with_run`).
    They come to their verdicts differently: a run looks at its tallies, and the check of a
    single catalog at two flags, which are read off the findings.  The flags say what the
    tallies say (`any_eq_decide_countP_pos`), so the verdict on a single catalog is the one on
    its own tallies, whatever the options are (`valid_of_validateFile_eq_ok`). -/

namespace CatalogLint

variable {options : Options} {compiled : List (String × List CompiledPattern)}
variable {path name content : String} {files : FileSystem} {outcome : RunOutcome}

/-! ## Flags and tallies -/

/-- Some item has a property exactly if the number of those that have it is positive. -/
theorem any_eq_decide_countP_pos {α : Type} (p : α → Bool) (items : List α) :
    items.any p = decide (0 < items.countP p) := by
  rw [Bool.eq_iff_iff, List.any_eq_true, decide_eq_true_iff, List.countP_pos_iff]

/-- The flags of a check give the verdict that the tallies of its findings give. -/
theorem isValid_of_flags (options : Options) (checked : Catalog.Checked) :
    (!checked.hasError && !(options.failOnWarning && checked.hasWarning))
      = isValid options (checked.findings.countP Finding.isError)
        (checked.findings.countP Finding.isWarning) false := by
  have herrors : (!decide (0 < checked.findings.countP Finding.isError))
      = (checked.findings.countP Finding.isError == 0) := by
    rw [Bool.eq_iff_iff, Bool.not_eq_true', decide_eq_false_iff_not, beq_iff_eq]
    exact Nat.not_lt.trans Nat.le_zero
  rw [Catalog.Checked.hasError, Catalog.Checked.hasWarning, any_eq_decide_countP_pos,
    any_eq_decide_countP_pos, herrors, isValid, Bool.not_false, Bool.and_true]

/-! ## The outcome for a single catalog -/

/-- A text that is written as UTF-8 is read back. -/
theorem Text.readUtf8?_toUTF8 (content : String) : Text.readUtf8? content.toUTF8 = some content :=
  dif_pos content.isValidUTF8

/-- The verdict on a single catalog is the one on the tallies that are handed out with it. -/
theorem valid_of_validateFile_eq_ok {read? : PatternReader}
    (h : validateFile read? options path files = .ok outcome) :
    outcome.valid
      = isValid options outcome.statistics.errors outcome.statistics.warnings false := by
  obtain ⟨content, compiled, rfl⟩ := of_validateFile_eq_ok h
  obtain ⟨hfindings, herrors, hwarnings, -⟩ := checkAlone_spec options compiled path content
  rw [herrors, hwarnings, hfindings, List.countP_map, List.countP_map]
  simp only [checkAlone, Catalog.recordCheck_eq]
  exact isValid_of_flags options _

/-- With patterns that are right the check of a file comes to a result: the findings about
    the file and the catalog that is kept are those of a source of a run, and the tallies
    count the findings. -/
theorem validateFile_eq_ok {read? : PatternReader} (hcompile : options.compile read? = .ok compiled)
    (hname : Path.fileName? path = some name)
    (hfile : files.bytesAt? path = some content.toUTF8) :
    ∃ outcome kept, validateFile read? options path files = .ok outcome
      ∧ outcome.findings = (Catalog.checkFile options compiled ⟨path, name, content⟩).2
      ∧ outcome.statistics.errors = outcome.findings.countP Finding.isError
      ∧ outcome.statistics.warnings = outcome.findings.countP Finding.isWarning
      ∧ outcome.catalogs = [kept]
      ∧ kept.orderedKeys
          = (Catalog.checkFile options compiled ⟨path, name, content⟩).1.orderedKeys
      ∧ kept.values = (Catalog.checkFile options compiled ⟨path, name, content⟩).1.values := by
  have htext : catalogText path files = .ok content := by
    rw [catalogText, hfile, Option.bind_some, Text.readUtf8?_toUTF8]
  obtain ⟨hfindings, herrors, hwarnings, kept, hcatalogs, hkeys, hvalues⟩ :=
    checkAlone_spec options compiled path content
  refine ⟨(checkAlone options compiled path content (.new {})).2, kept, ?_, ?_, herrors,
    hwarnings, hcatalogs, hkeys, hvalues⟩
  · rw [validateFile_eq, htext, hcompile]
  · rw [hfindings, hname]
    rfl

/-- **A catalog on its own and in a run.**  With options in their normal form and patterns
    that are right, the check of a file that holds a text comes to a result.  In every run
    that has the file among its catalogs, the same is reported about it in the same order,
    between what is reported about the catalogs before it and after it, and the same keys and
    values are kept of it.  The tallies that are handed out with it count what is reported, and
    the verdict on the file is the one on these tallies. -/
theorem catalog_on_its_own_agrees_with_run {read? : PatternReader}
    (hnormal : options.normalized = options) (hcompile : options.compile read? = .ok compiled)
    (hname : Path.fileName? path = some name)
    (hfile : files.bytesAt? path = some content.toUTF8) :
    ∃ alone kept, validateFile read? options path files = .ok alone
      ∧ alone.catalogs = [kept]
      ∧ alone.findings = catalogFindings options compiled [⟨path, name, content⟩]
      ∧ (∀ before after templates policy, ∃ run inRun,
          runOn read? options (before ++ ⟨path, name, content⟩ :: after) templates policy
            = .ok run
          ∧ catalogFindings options compiled before ++ alone.findings
              ++ catalogFindings options compiled after <+: run.findings
          ∧ run.catalogs[before.length]? = some inRun
          ∧ inRun.orderedKeys = kept.orderedKeys
          ∧ inRun.values = kept.values)
      ∧ alone.statistics.errors = alone.findings.countP Finding.isError
      ∧ alone.statistics.warnings = alone.findings.countP Finding.isWarning
      ∧ (alone.valid = true
          ↔ alone.statistics.errors = 0
            ∧ ¬ (options.failOnWarning = true ∧ 0 < alone.statistics.warnings)) := by
  obtain ⟨alone, kept, halone, hfindings, herrors, hwarnings, hcatalogs, hkeys, hvalues⟩ :=
    validateFile_eq_ok hcompile hname hfile
  refine ⟨alone, kept, halone, hcatalogs, ?_, ?_, herrors, hwarnings, ?_⟩
  · rw [hfindings, catalogFindings, List.flatMap_singleton]
  · intro before after templates policy
    have hrun := runOn_eq (hnormal.symm ▸ hcompile) (before ++ ⟨path, name, content⟩ :: after)
      templates policy
    rw [hnormal] at hrun
    refine ⟨_, (Catalog.checkFile options compiled ⟨path, name, content⟩).1, hrun, ?_, ?_,
      hkeys.symm, hvalues.symm⟩
    · have hphase : catalogFindings options compiled (before ++ ⟨path, name, content⟩ :: after)
          = catalogFindings options compiled before ++ alone.findings
            ++ catalogFindings options compiled after := by
        rw [hfindings, catalogFindings, List.flatMap_append, List.flatMap_cons,
          List.append_assoc]
        rfl
      rw [findings_runCompiled, hphase]
      exact ((List.prefix_append _ _).trans (List.prefix_append _ _)).trans
        (List.prefix_append _ _)
    · rw [catalogs_runCompiled, parsedCatalogs, List.map_append, List.map_cons,
        List.getElem?_append_right (Nat.le_of_eq (List.length_map _)), List.length_map,
        Nat.sub_self]
      rfl
  · rw [valid_of_validateFile_eq_ok halone, isValid_iff]
    exact and_congr_right fun _ => and_iff_left rfl

/-- A catalog with a blank at the end of its line, on its own and behind a catalog with an
    error: the same warning is reported, and it makes the catalog invalid on request. -/
theorem blank_at_line_end_on_its_own_and_in_run :
    let options : Options := { failOnWarning := true }
    let german : SourceFile := ⟨"i18n/de.json", "de.json", "\"A\": \"\""⟩
    let english : SourceFile := ⟨"i18n/en.json", "en.json", "\"A\": \"x\" "⟩
    let files : FileSystem :=
      { root := .folder [("i18n", .folder [("en.json", .file english.content.toUTF8)])] }
    ∃ alone run, validateFile Pattern.read? options english.path files = .ok alone
      ∧ runOn Pattern.read? options [german, english] [] .warn = .ok run
      ∧ alone.findings = [⟨.trailingWhitespace, .warning, "Trailing spaces must be removed.",
          some 1, some "en.json"⟩]
      ∧ ⟨.emptyValue, .error, "Empty values are not allowed. Key: A", some 1, some "de.json"⟩
          :: alone.findings <+: run.findings
      ∧ alone.valid = false := by
  intro options german english files
  have hnormal : ({ failOnWarning := true } : Options).normalized = { failOnWarning := true } := rfl
  have hcompile : options.compile Pattern.read? = .ok [] := compile_read?_eq_ok rfl rfl
  have hname : Path.fileName? english.path = some english.name := by decide +kernel
  have hfile : files.bytesAt? english.path = some english.content.toUTF8 := by decide +kernel
  obtain ⟨alone, kept, halone, -, hfindings, hruns, -, hwarnings, hvalid⟩ :=
    catalog_on_its_own_agrees_with_run hnormal hcompile hname hfile
  obtain ⟨run, inRun, hrun, hprefix, -, -, -⟩ := hruns [german] [] [] .warn
  have hwarning : alone.findings = [⟨.trailingWhitespace, .warning,
      "Trailing spaces must be removed.", some 1, some "en.json"⟩] := by
    rw [hfindings]
    decide +kernel
  refine ⟨alone, run, halone, hrun, hwarning, ?_, ?_⟩
  · have hgerman : catalogFindings options [] [german] = [⟨.emptyValue, .error,
        "Empty values are not allowed. Key: A", some 1, some "de.json"⟩] := by
      decide +kernel
    rw [hgerman] at hprefix
    exact (List.prefix_append _ _).trans hprefix
  · rw [← Bool.not_eq_true, hvalid, hwarnings, hwarning]
    exact fun h => h.2 ⟨rfl, Nat.one_pos⟩

end CatalogLint
