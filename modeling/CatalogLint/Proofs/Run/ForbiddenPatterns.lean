import CatalogLint.Proofs.Catalog.Pairs
import CatalogLint.Proofs.Run.Languages
import Mathlib.Data.List.Forall2

/-! # Forbidden patterns

    Whatever decides which expressions are right, the forbidden patterns are made ready for
    matching before anything is checked, language by language and one after the other.  The
    first wrong one is the error (`compileLanguages_eq_error_iff`), and it is all that the run
    comes to: what was seen before it is all that is seen after it
    (`executeOn_eq_forbidden_iff`).  If none is wrong, every language keeps all its patterns
    (`compileLanguages_eq_ok_iff`), so the patterns that are looked for in a catalog are those
    of its language (`forall₂_forbiddenFor`), and each of them is one warning about each value
    that it occurs in (`filter_forbiddenPattern_check`). -/

namespace CatalogLint

/-! ## The first that fails -/

section First

variable {α : Type} {holds : α → Prop} {items rest : List α} {item first : α}

/-- The first item of a list that something does not hold for. -/
def FirstFailing (holds : α → Prop) (items : List α) (item : α) : Prop :=
  ∃ before after, items = before ++ item :: after
    ∧ (∀ earlier ∈ before, holds earlier) ∧ ¬ holds item

/-- The first item that fails is one of the list. -/
theorem FirstFailing.mem (h : FirstFailing holds items item) : item ∈ items := by
  obtain ⟨before, after, rfl, -⟩ := h
  exact List.mem_append_right _ List.mem_cons_self

/-- The first item that fails does fail. -/
theorem FirstFailing.not_holds (h : FirstFailing holds items item) : ¬ holds item := by
  obtain ⟨before, after, -, -, hitem⟩ := h
  exact hitem

/-- No item of an empty list fails. -/
theorem not_firstFailing_nil : ¬ FirstFailing holds [] item :=
  fun h => List.not_mem_nil h.mem

/-- An item that fails is the first one if it stands first. -/
theorem firstFailing_cons_of_not (h : ¬ holds first) :
    FirstFailing holds (first :: rest) item ↔ item = first := by
  constructor
  · rintro ⟨before, after, heq, hbefore, hitem⟩
    cases before with
    | nil => exact (List.cons.inj heq).1.symm
    | cons earlier before =>
        obtain ⟨rfl, rfl⟩ := List.cons.inj heq
        exact absurd (hbefore first List.mem_cons_self) h
  · rintro rfl
    exact ⟨[], rest, rfl, nofun, h⟩

/-- An item that does not fail can be left out in front. -/
theorem firstFailing_cons_of_holds (h : holds first) :
    FirstFailing holds (first :: rest) item ↔ FirstFailing holds rest item := by
  constructor
  · rintro ⟨before, after, heq, hbefore, hitem⟩
    cases before with
    | nil =>
        obtain ⟨rfl, rfl⟩ := List.cons.inj heq
        exact absurd h hitem
    | cons earlier before =>
        obtain ⟨rfl, rfl⟩ := List.cons.inj heq
        exact ⟨before, after, rfl, (List.forall_mem_cons.mp hbefore).2, hitem⟩
  · rintro ⟨before, after, rfl, hbefore, hitem⟩
    exact ⟨first :: before, after, rfl, List.forall_mem_cons.mpr ⟨h, hbefore⟩, hitem⟩

/-- There is a first item that fails if there is one at all. -/
theorem exists_firstFailing_iff :
    (∃ item, FirstFailing holds items item) ↔ ∃ item ∈ items, ¬ holds item := by
  induction items with
  | nil => exact iff_of_false (fun ⟨_, hitem⟩ => not_firstFailing_nil hitem) (by simp)
  | cons first rest ih =>
      simp only [List.mem_cons, or_and_right, exists_or, exists_eq_left]
      by_cases h : holds first
      · simp only [firstFailing_cons_of_holds h, ih, h, not_true, false_or]
      · simp only [firstFailing_cons_of_not h, exists_eq, h, not_false_eq_true, true_or]

end First

/-! ## Reading patterns -/

section Reading

variable {read? : PatternReader} {pattern : ForbiddenPattern}
  {ready : CompiledPattern} {bad : BadPattern} {language : String}
  {patterns : List ForbiddenPattern} {entries : List (String × List ForbiddenPattern)}

/-- The expression of a pattern is right. -/
def ForbiddenPattern.Compiles (read? : PatternReader)
    (pattern : ForbiddenPattern) : Prop :=
  (read? pattern.regex (!pattern.sensitive)).isSome = true

/-- The expressions of all patterns of a language are right. -/
def LanguageCompiles (read? : PatternReader)
    (entry : String × List ForbiddenPattern) : Prop :=
  ∀ pattern ∈ entry.2, pattern.Compiles read?

/-- Some pattern of a language is wrong if not all of them are right. -/
theorem not_languageCompiles_iff {entry : String × List ForbiddenPattern} :
    ¬ LanguageCompiles read? entry ↔ ∃ pattern ∈ entry.2, ¬ pattern.Compiles read? := by
  simp only [LanguageCompiles, not_forall, exists_prop]

/-- A pattern that is ready for matching has the expression of the pattern and its message. -/
structure ForbiddenPattern.CompilesTo (read? : PatternReader)
    (pattern : ForbiddenPattern) (ready : CompiledPattern) : Prop where
  expr : read? pattern.regex (!pattern.sensitive) = some ready.expr
  message : ready.message = pattern.message

/-- The patterns of a language that are ready for matching are all of its own, in their
    order. -/
structure LanguageCompilesTo (read? : PatternReader)
    (entry : String × List ForbiddenPattern) (ready : String × List CompiledPattern) : Prop where
  language : ready.1 = entry.1
  patterns : List.Forall₂ (ForbiddenPattern.CompilesTo read?) entry.2 ready.2

open ForbiddenPattern

/-- A pattern is made ready for matching with its expression and its message. -/
theorem compile?_eq_some_iff :
    pattern.compile? read? = some ready ↔ pattern.CompilesTo read? ready := by
  rw [compile?, Option.map_eq_some_iff]
  constructor
  · rintro ⟨expr, hexpr, rfl⟩
    exact ⟨hexpr, rfl⟩
  · rintro ⟨hexpr, hmessage⟩
    exact ⟨ready.expr, hexpr, by rw [← hmessage]⟩

/-- A pattern is not made ready for matching if its expression is wrong. -/
theorem compile?_eq_none_iff : pattern.compile? read? = none ↔ ¬ pattern.Compiles read? := by
  rw [compile?, Option.map_eq_none_iff, Compiles, Bool.not_eq_true, Option.isSome_eq_false_iff,
    Option.isNone_iff_eq_none]

namespace Options

/-- The error about the patterns of a language is the first wrong one. -/
theorem compileAll_eq_error_iff :
    compileAll read? language patterns = .error bad
      ↔ ∃ pattern, FirstFailing (Compiles read?) patterns pattern
        ∧ bad = ⟨language, pattern.regex⟩ := by
  induction patterns with
  | nil =>
      refine iff_of_false nofun ?_
      rintro ⟨pattern, hfirst, -⟩
      exact not_firstFailing_nil hfirst
  | cons first rest ih =>
      rw [compileAll]
      cases hready : first.compile? read? with
      | none =>
          have hwrong := compile?_eq_none_iff.mp hready
          simp only [firstFailing_cons_of_not hwrong, exists_eq_left, Except.error.injEq]
          exact eq_comm
      | some ready =>
          have hright : first.Compiles read? := by
            by_contra hwrong
            exact nomatch hready.symm.trans (compile?_eq_none_iff.mpr hwrong)
          simp only [firstFailing_cons_of_holds hright, ← ih]
          cases compileAll read? language rest with
          | error other => rfl
          | ok readies => exact iff_of_false nofun nofun

/-- The patterns of a language are made ready for matching if all of them are right, and then
    every one of them is kept. -/
theorem compileAll_eq_ok_iff {readies : List CompiledPattern} :
    compileAll read? language patterns = .ok readies
      ↔ List.Forall₂ (CompilesTo read?) patterns readies := by
  induction patterns generalizing readies with
  | nil => simp [compileAll, eq_comm]
  | cons first rest ih =>
      rw [compileAll, List.forall₂_cons_left_iff]
      simp only [← compile?_eq_some_iff, ← ih]
      cases first.compile? read? with
      | none => simp
      | some ready =>
          cases compileAll read? language rest with
          | error other => simp [Except.map]
          | ok others => simp [Except.map, eq_comm]

/-- The patterns of a language that are made ready for matching are right. -/
theorem compiles_of_compileAll_eq_ok {readies : List CompiledPattern}
    (h : compileAll read? language patterns = .ok readies) :
    ∀ pattern ∈ patterns, Compiles read? pattern := by
  intro pattern hmem
  by_contra hwrong
  obtain ⟨first, hfirst⟩ := exists_firstFailing_iff.mpr ⟨pattern, hmem, hwrong⟩
  exact nomatch h.symm.trans (compileAll_eq_error_iff.mpr ⟨first, hfirst, rfl⟩)

/-- **The error about the patterns is the first wrong one** of the first language that has
    one. -/
theorem compileLanguages_eq_error_iff :
    compileLanguages read? entries = .error bad
      ↔ ∃ language patterns pattern,
        FirstFailing (LanguageCompiles read?) entries (language, patterns)
        ∧ FirstFailing (Compiles read?) patterns pattern ∧ bad = ⟨language, pattern.regex⟩ := by
  induction entries with
  | nil =>
      refine iff_of_false nofun ?_
      rintro ⟨language, patterns, pattern, hfirst, -⟩
      exact not_firstFailing_nil hfirst
  | cons entry rest ih =>
      obtain ⟨own, ownPatterns⟩ := entry
      rw [compileLanguages]
      cases hready : compileAll read? own ownPatterns with
      | error other =>
          obtain ⟨wrong, hwrong, hother⟩ := compileAll_eq_error_iff.mp hready
          have hfails : ¬ LanguageCompiles read? (own, ownPatterns) :=
            not_languageCompiles_iff.mpr ⟨wrong, hwrong.mem, hwrong.not_holds⟩
          -- the first language fails, and it fails in the same way on its own
          have hsame : (Except.error other : Except _ (List (String × List CompiledPattern)))
              = .error bad ↔ compileAll read? own ownPatterns = .error bad := by
            rw [hready, Except.error.injEq, Except.error.injEq]
          rw [hsame, compileAll_eq_error_iff]
          simp [firstFailing_cons_of_not hfails]
      | ok readies =>
          have hright : LanguageCompiles read? (own, ownPatterns) :=
            compiles_of_compileAll_eq_ok hready
          simp only [firstFailing_cons_of_holds hright, ← ih]
          cases compileLanguages read? rest with
          | error other => rfl
          | ok others => exact iff_of_false nofun nofun

/-- **Every language keeps all of its patterns** if all of them are right, with their messages
    and in their order. -/
theorem compileLanguages_eq_ok_iff {compiled : List (String × List CompiledPattern)} :
    compileLanguages read? entries = .ok compiled
      ↔ List.Forall₂ (LanguageCompilesTo read?) entries compiled := by
  induction entries generalizing compiled with
  | nil => simp [compileLanguages, eq_comm]
  | cons entry rest ih =>
      obtain ⟨language, patterns⟩ := entry
      rw [compileLanguages, List.forall₂_cons_left_iff]
      cases hready : compileAll read? language patterns with
      | error bad =>
          refine iff_of_false nofun ?_
          rintro ⟨ready, others, hentry, -⟩
          exact nomatch hready.symm.trans (compileAll_eq_ok_iff.mpr hentry.patterns)
      | ok readies =>
          cases hrest : compileLanguages read? rest with
          | error bad =>
              refine iff_of_false nofun ?_
              rintro ⟨ready, others, -, hothers, -⟩
              exact nomatch hrest.symm.trans (ih.mpr hothers)
          | ok others =>
              constructor
              · intro hcompiled
                exact ⟨(language, readies), others, ⟨rfl, compileAll_eq_ok_iff.mp hready⟩,
                  ih.mp hrest, (Except.ok.inj hcompiled).symm⟩
              · rintro ⟨⟨own, ownReadies⟩, more, ⟨hown, hpatterns⟩, hmore, rfl⟩
                have hreadies := hready.symm.trans (compileAll_eq_ok_iff.mpr hpatterns)
                have hothers := hrest.symm.trans (ih.mpr hmore)
                rw [Except.ok.inj hreadies, Except.ok.inj hothers]
                exact congrArg (fun own => Except.ok ((own, ownReadies) :: more)) hown.symm

end Options

/-! ## Looking for patterns -/

open Catalog Finding

/-- The patterns of a language are looked for in its catalogs, and in no others. -/
theorem forall₂_forbiddenFor {compiled : List (String × List CompiledPattern)}
    (h : List.Forall₂ (LanguageCompilesTo read?) entries compiled) (language : String) :
    List.Forall₂ (CompilesTo read?) ((entries.lookup language).getD [])
      (forbiddenFor compiled language) := by
  rw [forbiddenFor]
  induction h with
  | nil => exact List.Forall₂.nil
  | @cons entry ready rest others hentry _ ih =>
      rw [List.lookup_cons, List.lookup_cons, hentry.language]
      cases language == entry.1 with
      | true => exact hentry.patterns
      | false => exact ih

/-- The pattern occurs in a text. -/
def ForbiddenPattern.occursIn (read? : PatternReader)
    (pattern : ForbiddenPattern) (text : String) : Bool :=
  (read? pattern.regex (!pattern.sensitive)).any (·.occursIn text)

/-- The warnings about a value are the messages of the patterns that occur in it. -/
theorem forbiddenFindings_eq {readies : List CompiledPattern}
    (h : List.Forall₂ (CompilesTo read?) patterns readies) (value : String) :
    forbiddenFindings readies value
      = (patterns.filter (ForbiddenPattern.occursIn read? · value)).map fun pattern =>
        .warning .forbiddenPattern pattern.message := by
  rw [forbiddenFindings]
  induction h with
  | nil => rfl
  | @cons pattern ready rest others hpattern _ ih =>
      have hoccurs : pattern.occursIn read? value = ready.expr.occursIn value := by
        rw [ForbiddenPattern.occursIn, hpattern.expr, Option.any_some]
      rw [List.filter_cons, List.filter_cons, hoccurs]
      split
      · rw [List.map_cons, List.map_cons, ih, hpattern.message]
      · exact ih

/-- What is reported about pairs because of forbidden patterns is reported pair by pair. -/
theorem filter_forbiddenPattern_pairReports (rules : Rules) (progress : Progress)
    (pairs : List PairLine) :
    (pairReports rules progress pairs).filter (·.category = .forbiddenPattern)
      = pairs.flatMap fun pair =>
        (forbiddenFindings rules.forbidden pair.value).map (·.atLine pair.number) := by
  induction pairs generalizing progress with
  | nil => rfl
  | cons pair rest ih =>
      rw [pairReports, List.filter_append, filter_map_atLine, filter_pairFindings, ih,
        List.flatMap_cons]

/-- **Each pattern of a language is one warning about each value that it occurs in**, in the
    order of the lines and then of the patterns. -/
theorem filter_forbiddenPattern_check {compiled : List (String × List CompiledPattern)}
    (h : List.Forall₂ (LanguageCompilesTo read?) entries compiled)
    (settings : Options) (content language : String) :
    (check settings compiled content language).findings.filter (·.category = .forbiddenPattern)
      = (pairLines settings content).flatMap fun pair =>
        (((entries.lookup language).getD []).filter
          (ForbiddenPattern.occursIn read? · pair.value)).map fun pattern =>
            (Finding.warning .forbiddenPattern pattern.message).atLine pair.number := by
  rw [filter_findings_check .forbiddenPattern nofun nofun, filter_forbiddenPattern_pairReports]
  refine List.flatMap_congr fun pair _ => ?_
  rw [forbiddenFindings_eq (forall₂_forbiddenFor h language), List.map_map]
  rfl

/-! ## Whole runs -/

variable {options : Options} {catalogs templates : List SourceFile} {policy : UnusedKeyPolicy}

/-- A run fails because of a forbidden pattern if that is what reading the patterns comes to,
    and then nothing has been seen of it. -/
theorem executeOn_eq_forbidden_iff {before after : Trace} :
    executeOn read? options catalogs templates policy before
        = .error (.badPattern (.forbidden bad) true) after
      ↔ options.compileForbidden read? = .error bad ∧ after = before := by
  have hforbidden : options.normalized.compile read? = .error (.forbidden bad)
      ↔ options.compileForbidden read? = .error bad := Options.compile_eq_forbidden_iff
  rw [← hforbidden]
  cases hcompile : options.normalized.compile read? with
  | error error =>
      rw [executeOn_eq_error hcompile, EStateM.Result.error.injEq, Failure.badPattern.injEq,
        Except.error.injEq, and_iff_left rfl, eq_comm (a := before)]
  | ok compiled =>
      obtain ⟨reached, hrun, -⟩ := executeOn_eq_ok hcompile catalogs templates policy before
      rw [hrun]
      exact iff_of_false nofun (fun h => nomatch h.1)

/-- Reading the patterns fails if some pattern of some language is wrong. -/
theorem exists_compileForbidden_eq_error_iff :
    (∃ bad, options.compileForbidden read? = .error bad)
      ↔ ∃ entry ∈ options.forbiddenPatterns.entries, ∃ pattern ∈ entry.2,
        ¬ pattern.Compiles read? := by
  simp only [← not_languageCompiles_iff]
  rw [← exists_firstFailing_iff]
  constructor
  · rintro ⟨bad, hbad⟩
    obtain ⟨language, patterns, pattern, hlanguage, -⟩ :=
      Options.compileLanguages_eq_error_iff.mp hbad
    exact ⟨(language, patterns), hlanguage⟩
  · rintro ⟨⟨language, patterns⟩, hlanguage⟩
    obtain ⟨pattern, hpattern⟩ :=
      exists_firstFailing_iff.mpr (not_languageCompiles_iff.mp hlanguage.not_holds)
    exact ⟨_, Options.compileLanguages_eq_error_iff.mpr
      ⟨language, patterns, pattern, hlanguage, hpattern, rfl⟩⟩

/-- **A forbidden pattern that is wrong stops the run before anything is reported.**  Whatever
    decides which expressions are right, for all options, catalogs, templates and policies, and
    whatever the sink has received before, the run fails because of a forbidden pattern exactly
    if some pattern of some language is wrong, whether there is a catalog of the language or
    not.  The error names the first wrong one, in the order of the bytes of the languages and
    then in the order of the patterns.  When the run has failed, the sink has received no
    message and the policy has not been asked; with other catalogs, templates and policies, and
    on other sinks, it fails in the same way.

    If no pattern is wrong, every language keeps all its patterns with their messages, and the
    run goes on with them: its messages come behind those that the sink had, and its questions
    behind those that the policy was asked before.  (If the pattern of lines cannot be built
    for the indent unit, it fails for this reason, and nothing is seen of it either.)  The check
    of a text then reports, pair by pair, one warning for each pattern of its language that
    occurs in the value, with the message of the pattern and at the line of the pair. -/
theorem wrong_patterns_stop_the_run_before_anything_is_reported (read? : PatternReader)
    (options : Options) (catalogs templates : List SourceFile) (policy : UnusedKeyPolicy) :
    let languages := options.forbiddenPatterns.entries
    let run := executeOn read? options catalogs templates policy
    let indentUnit := options.normalized.indentUnit
    (languages.map Prod.fst).Pairwise (Text.utf8Bytes · < Text.utf8Bytes ·)
    ∧ (∀ before,
      (∃ bad after, run before = .error (.badPattern (.forbidden bad) true) after)
        ↔ ∃ entry ∈ languages, ∃ pattern ∈ entry.2, ¬ pattern.Compiles read?)
    ∧ (∀ before bad after, run before = .error (.badPattern (.forbidden bad) true) after →
      (∃ language patterns pattern,
        FirstFailing (LanguageCompiles read?) languages (language, patterns)
        ∧ FirstFailing (Compiles read?) patterns pattern ∧ bad = ⟨language, pattern.regex⟩)
      ∧ after = before
      ∧ ∀ catalogs' templates' policy' before',
        executeOn read? options catalogs' templates' policy' before'
          = .error (.badPattern (.forbidden bad) true) before')
    ∧ ((∀ entry ∈ languages, ∀ pattern ∈ entry.2, pattern.Compiles read?) →
      ∃ compiled, List.Forall₂ (LanguageCompilesTo read?) languages compiled
        ∧ (∀ before, (read? (linePattern indentUnit) false).isSome = true →
          let outcome := runCompiled options.normalized compiled catalogs templates policy
          let parsed := parsedCatalogs options.normalized compiled catalogs
          ∃ after, run before = .ok { outcome with messages := after.messages.toList } after
            ∧ after.messages.toList = before.messages.toList ++ outcome.messages
            ∧ after.questions.toList = before.questions.toList
              ++ runPolicyCalls options.normalized parsed templates)
        ∧ (∀ before, read? (linePattern indentUnit) false = none →
          run before = .error (.badPattern (.line indentUnit) true) before)
        ∧ ∀ settings content language,
          (check settings compiled content language).findings.filter
              (·.category = .forbiddenPattern)
            = (pairLines settings content).flatMap fun pair =>
              (((options.forbiddenPatterns.get? language).getD []).filter
                (ForbiddenPattern.occursIn read? · pair.value)).map fun pattern =>
                  (Finding.warning .forbiddenPattern pattern.message).atLine pair.number) := by
  intro languages run indentUnit
  refine ⟨pairwise_languages options, fun before => ?_, fun before bad after hbad => ?_,
    fun hright => ?_⟩
  · rw [← exists_compileForbidden_eq_error_iff]
    simp only [run, executeOn_eq_forbidden_iff, exists_and_left, exists_eq, and_true]
  · obtain ⟨hcompile, hafter⟩ := executeOn_eq_forbidden_iff.mp hbad
    refine ⟨Options.compileLanguages_eq_error_iff.mp hcompile, hafter, fun _ _ _ _ => ?_⟩
    exact executeOn_eq_forbidden_iff.mpr ⟨hcompile, rfl⟩
  · cases hforbidden : options.compileForbidden read? with
    | error bad =>
        obtain ⟨entry, hentry, pattern, hpattern, hwrong⟩ :=
          exists_compileForbidden_eq_error_iff.mp ⟨bad, hforbidden⟩
        exact absurd (hright entry hentry pattern hpattern) hwrong
    | ok compiled =>
        have hcompiled := Options.compileLanguages_eq_ok_iff.mp hforbidden
        refine ⟨compiled, hcompiled, fun before hline => ?_, fun before hline => ?_,
          filter_forbiddenPattern_check hcompiled⟩
        · exact executeOn_eq_ok (Options.compile_eq_ok_iff.mpr ⟨hforbidden, hline⟩) _ _ _ before
        · exact executeOn_eq_error (Options.compile_eq_line hforbidden hline) _ _ _ before

/-- French has a wrong pattern, and so has German, where a pattern that is right stands before
    it: German comes first, whatever the catalogs are, and a sink that has received a message
    has received no other one when the run has failed.  If all are right, a pattern that asks
    for the case of letters is looked for in this case only, and one that does not in both. -/
theorem german_pattern_stops_the_run :
    let wrong : Options :=
      { forbiddenPatterns :=
          .ofList [("fr", [⟨"(", false, ""⟩]), ("de", [⟨"x", false, ""⟩, ⟨"[", true, ""⟩])] }
    let right : Options :=
      { forbiddenPatterns := .ofList [("en", [⟨"x", false, "no x"⟩, ⟨"y", true, "no y"⟩])] }
    let catalog : SourceFile := ⟨"en.json", "en.json", "\"A\": \"xY\"\n\"B\": \"Xy\""⟩
    let before : Trace := { messages := #[⟨"hello", none⟩] }
    (∀ catalogs templates policy,
      executeOn Pattern.read? wrong catalogs templates policy before
        = .error (.badPattern (.forbidden ⟨"de", "["⟩) true) before)
    ∧ ∃ compiled reached after,
      executeOn Pattern.read? right [catalog] [] .warn before = .ok reached after
      ∧ after.messages.toList
        = [⟨"hello", none⟩, ⟨"[ WARNING ] no x", some 1⟩, ⟨"[ WARNING ] no x", some 2⟩,
          ⟨"[ WARNING ] no y", some 2⟩, ⟨"[ WARNING ] Key A is not used in any template.", none⟩,
          ⟨"[ WARNING ] Key B is not used in any template.", none⟩]
      ∧ after.questions.toList = [["A", "B"]]
      ∧ (check right compiled catalog.content "en").findings.filter
          (·.category = .forbiddenPattern)
        = [(Finding.warning .forbiddenPattern "no x").atLine 1,
          (Finding.warning .forbiddenPattern "no x").atLine 2,
          (Finding.warning .forbiddenPattern "no y").atLine 2]
      ∧ (check right compiled catalog.content "de").findings.filter
          (·.category = .forbiddenPattern)
        = [] := by
  intro wrong right catalog before
  have hwrong : executeOn Pattern.read? wrong [] [] .warn before
      = .error (.badPattern (.forbidden ⟨"de", "["⟩) true) before :=
    executeOn_eq_forbidden_iff.mpr ⟨rfl, rfl⟩
  have hright : ∀ entry ∈ right.forbiddenPatterns.entries, ∀ pattern ∈ entry.2,
      (Pattern.read? pattern.regex (!pattern.sensitive)).isSome = true := by
    decide +kernel
  obtain ⟨-, -, hstop, -⟩ :=
    wrong_patterns_stop_the_run_before_anything_is_reported Pattern.read? wrong [] [] .warn
  obtain ⟨-, -, -, hresult⟩ :=
    wrong_patterns_stop_the_run_before_anything_is_reported Pattern.read? right [catalog] [] .warn
  obtain ⟨compiled, hcompiled, hrun, -, hfindings⟩ := hresult hright
  obtain ⟨after, hreached, hmessages, hquestions⟩ := hrun before isSome_read?_linePattern_tab
  -- the patterns that are ready are those that reading comes to
  have hready : compiled = (right.compileForbidden Pattern.read?).toOption.getD [] := by
    rw [Options.compileForbidden, Options.compileLanguages_eq_ok_iff.mpr hcompiled]
    rfl
  refine ⟨fun catalogs templates policy => (hstop _ _ _ hwrong).2.2 catalogs templates policy _,
    compiled, _, after, hreached, ?_, ?_, ?_, ?_⟩
  · rw [hmessages, hready]
    decide +kernel
  · rw [hquestions, hready]
    decide +kernel
  · rw [hfindings]
    decide +kernel
  · rw [hfindings]
    decide +kernel

end Reading

end CatalogLint
