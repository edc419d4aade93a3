import CatalogLint.Catalog.Coherence
import CatalogLint.Template.Check

/-! # Runs

    A run checks catalogs and templates in four phases: the catalogs one by one, the
    languages of the forbidden patterns, the coherence of the catalogs, and the
    templates.  A language without a catalog stops the run after the second phase.
    Patterns that are wrong stop it before the first.

    A run acts on what can be seen of it from outside, its `Trace`: it starts from whatever
    its sink has received before, and what it has handed on stays handed on, whether it comes
    to a result or fails.  `executeOn`, `execute` and `executeFile` are these actions;
    `runOn`, `run` and `validateFile` are what they come to on a sink that has received
    nothing. -/

namespace CatalogLint

/-! ## Failures -/

/-- The formats that options can be read from. -/
inductive ConfigFormat where
  | json
  | yaml
  deriving DecidableEq, Repr

namespace ConfigFormat

/-- The written name of a format. -/
def name : ConfigFormat → String
  | .json => "json"
  | .yaml => "yaml"

end ConfigFormat

/-- Why a run does not come to a result. -/
inductive Failure where
  | unsupportedConfig (path : String)
  | unreadableConfig (path : String)
  | malformedConfig (format : ConfigFormat) (path : String)
  | badPattern (error : PatternError) (inRun : Bool)
  | discovery (error : DiscoveryError)
  | unreadableCatalog (path : String)
  | unwritableReport (error : FileSystem.PathError)
  deriving DecidableEq, Repr

/-! ## Results -/

/-- The counts of a finished run. -/
structure Statistics where
  catalogs : Nat
  groups : Nat
  templates : Nat
  keys : Nat
  errors : Nat
  warnings : Nat
  deriving DecidableEq, Repr

/-- What a finished run comes to.  The messages are all that its sink has received. -/
structure RunOutcome where
  valid : Bool
  findings : List Finding
  catalogs : List ParsedCatalog
  statistics : Statistics
  messages : List Message
  deriving DecidableEq, Repr

/-! ## Actions -/

/-- What is done for all to see, and may fail.  What has been seen by then has been seen in
    either case. -/
abbrev Action (α : Type) := EStateM Failure Trace α

namespace Action

variable {α : Type}

/-- What an action comes to if nothing has been seen before. -/
def result (action : Action α) : Except Failure α :=
  match action.run {} with
  | .ok value _ => .ok value
  | .error failure _ => .error failure

/-- The value of a computation that is not seen, or its failure. -/
def ofExcept {ε : Type} (failure : ε → Failure) : Except ε α → Action α
  | .ok value => pure value
  | .error error => throw (failure error)

/-- Lends the sink to a reporter. -/
def reporting (work : Reporter → Reporter × α) : Action α := do
  let (reporter, value) := work (.new (← get))
  set reporter.trace
  return value

end Action

/-! ## Phases -/

/-- The finding about a language of the forbidden patterns that has no catalog. -/
def configurationFinding (options : Options) (language : String) : Finding :=
  .error .configuration
    ("\"" ++ language ++ "." ++ options.catalogExtension
      ++ "\" was not found. The forbidden patterns key \"" ++ language ++ "\" is invalid.")

/-- The languages of the forbidden patterns that have no catalog, in their order. -/
def languagesWithoutCatalog (options : Options) (catalogs : List ParsedCatalog) : List String :=
  options.forbiddenPatterns.keys.filter fun language =>
    !catalogs.any (·.language == language)

/-- The verdict on a run from its tallies and the policy about unused keys. -/
def isValid (options : Options) (errors warnings : Nat) (unusedFailure : Bool) : Bool :=
  errors == 0 && !(options.failOnWarning && decide (0 < warnings)) && !unusedFailure

/-- What a run comes to, read off its reporter at the end. -/
def outcomeOf (options : Options) (catalogs templates : List SourceFile)
    (parsed : List ParsedCatalog) (unusedFailure : Bool) (reporter : Reporter) : RunOutcome where
  valid := isValid options reporter.errors reporter.warnings unusedFailure
  findings := reporter.findings.toList
  catalogs := parsed
  statistics :=
    { catalogs := catalogs.length
      groups := (groupByDirectory ParsedCatalog.group parsed).length
      templates := templates.length
      keys := (KnownKeys.ofCatalogs parsed).size
      errors := reporter.errors
      warnings := reporter.warnings }
  messages := reporter.sent.toList

/-- The phases of a run on files that have been read, with patterns that are ready for
    matching. -/
def checkPhases (options : Options) (compiled : List (String × List CompiledPattern))
    (catalogs templates : List SourceFile) (policy : UnusedKeyPolicy) (reporter : Reporter) :
    Reporter × RunOutcome :=
  let checked := catalogs.map (Catalog.checkFile options compiled)
  let parsed := checked.map Prod.fst
  let reporter := checked.foldl (fun reporter file => reporter.emitAll file.2) reporter
  let missing := languagesWithoutCatalog options parsed
  let reporter := reporter.emitAll (missing.map (configurationFinding options))
  let known := KnownKeys.ofCatalogs parsed
  let (reporter, unusedFailure) :=
    if missing.isEmpty then
      let reporter := reporter.emitAll (Coherence.recordAll parsed []).2
      let (reporter, outcome) := Template.checkAll options known policy templates reporter
      (reporter, outcome.unusedFailure)
    else (reporter, false)
  (reporter, outcomeOf options catalogs templates parsed unusedFailure reporter)

/-! ## Whole runs -/

/-- Runs on files that have been read: the patterns are made ready, and then the phases
    report. -/
def executeOn (read? : PatternReader) (options : Options) (catalogs templates : List SourceFile)
    (policy : UnusedKeyPolicy) : Action RunOutcome := do
  let options := options.normalized
  let compiled ← .ofExcept (.badPattern · true) (options.compile read?)
  .reporting (checkPhases options compiled catalogs templates policy)

/-- Runs on the files of a file system. -/
def execute (read? : PatternReader) (options : Options) (policy : UnusedKeyPolicy)
    (files : FileSystem) : Action RunOutcome := do
  let options := options.normalized
  let catalogs ← .ofExcept .discovery
    (discoverCatalogs options.catalogDir options.catalogExtension files)
  let templates ← .ofExcept .discovery
    (discoverTemplates options.templateDir options.templateExtensions files)
  executeOn read? options catalogs templates policy

/-- The run on files that have been read. -/
def runOn (read? : PatternReader) (options : Options) (catalogs templates : List SourceFile)
    (policy : UnusedKeyPolicy) : Except Failure RunOutcome :=
  (executeOn read? options catalogs templates policy).result

/-- The run on the files of a file system. -/
def run (read? : PatternReader) (options : Options) (policy : UnusedKeyPolicy)
    (files : FileSystem) : Except Failure RunOutcome :=
  (execute read? options policy files).result

/-! ## A single catalog -/

/-- The check of the text of one catalog, with patterns that are ready for matching. -/
def checkAlone (options : Options) (compiled : List (String × List CompiledPattern))
    (path content : String) (reporter : Reporter) : Reporter × RunOutcome :=
  let language := (Path.stem? path).getD ""
  let name := (Path.fileName? path).getD ""
  let (checked, findings) := Catalog.recordCheck options compiled content language #[]
  let reporter := reporter.emitAll (findings.toList.map (·.inFile name))
  (reporter,
    { valid := !checked.hasError && !(options.failOnWarning && checked.hasWarning)
      findings := reporter.findings.toList
      catalogs :=
        [{  language
            name
            path
            group := (Path.parent? path).getD ""
            orderedKeys := checked.orderedKeys
            values := checked.values }]
      statistics :=
        { catalogs := 1
          groups := 1
          templates := 0
          keys := checked.orderedKeys.length
          errors := reporter.errors
          warnings := reporter.warnings }
      messages := reporter.sent.toList })

/-- The text of the catalog at a path. -/
def catalogText (path : String) (files : FileSystem) : Except Failure String :=
  match (files.bytesAt? path).bind Text.readUtf8? with
  | none => .error (.unreadableCatalog path)
  | some content => .ok content

/-- Checks one catalog of a file system, with the options as they are. -/
def executeFile (read? : PatternReader) (options : Options) (path : String)
    (files : FileSystem) : Action RunOutcome := do
  let content ← .ofExcept id (catalogText path files)
  let compiled ← .ofExcept (.badPattern · false) (options.compile read?)
  .reporting (checkAlone options compiled path content)

/-- The check of one catalog of a file system. -/
def validateFile (read? : PatternReader) (options : Options) (path : String)
    (files : FileSystem) : Except Failure RunOutcome :=
  (executeFile read? options path files).result

end CatalogLint
