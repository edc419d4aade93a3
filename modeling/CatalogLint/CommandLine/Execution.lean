import CatalogLint.CommandLine.Arguments
import CatalogLint.Failure
import CatalogLint.Options.Load

/-! # Execution

    What the program does with its arguments, as a function of the file system: what it
    prints, the code it ends with, and the report file it leaves behind. -/

namespace CatalogLint.CommandLine

/-- What a call of the program comes to. -/
structure Result where
  /-- Zero for a valid run, one for an invalid run or a failure, two for arguments that
      are not understood. -/
  exitCode : Nat
  output : String := ""
  errors : String := ""
  files : FileSystem
  /-- The path of the report, if one was written. -/
  saved : Option String := none

/-- What a call depends on besides its arguments and the files. -/
structure Setup where
  color : Bool
  /-- The time of the call, as reports have it. -/
  time : String

/-! ## Messages -/

/-- The line that is printed for a message. -/
def messageLine (message : Message) : String :=
  match message.line with
  | some line => toString line ++ ": " ++ message.text ++ "\n"
  | none => message.text ++ "\n"

/-- The lines that are printed for messages. -/
def messageLines (messages : List Message) : String :=
  String.join (messages.map messageLine)

/-- The lines about how the program is called. -/
def usageLines : List String :=
  ["Static validation of i18n catalogs and HTML templates",
    "",
    "Usage: i18n-lint [-v] check [OPTIONS]",
    "       i18n-lint [-v] file [OPTIONS] <FILE>",
    "",
    "Options:",
    "  -c, --config <CONFIG>       Configuration file (.json, .yaml or .yml)",
    "      --fail-on-warning       Warnings make the run invalid",
    "      --ignore-order          Do not check that keys are sorted",
    "      --ignore-empty-values   Accept empty values",
    "      --enforce-key-prefixes  Require keys to start with one of the configured prefixes",
    "  -f, --format <FORMAT>       text, json, yaml or sarif",
    "  -o, --output <OUTPUT>       Write the report to this file, or into this directory",
    "  -v, --verbose               Debug logging on stderr",
    "  -h, --help                  Print help",
    "  -V, --version               Print version (before the command)",
    "",
    "Options of check:",
    "      --catalog-dir <DIR>     Catalog directory pattern (e.g. ./src/i18n/)",
    "      --template-dir <DIR>    Template directory pattern (e.g. ./src/**/)",
    "      --no-text-check         Skip the untranslated-text check in templates",
    "      --exclude <TEXT>        Text that is allowed to stay untranslated (repeatable)"]

/-- The words about how the program is called. -/
def usage : String :=
  String.join (usageLines.map (· ++ "\n"))

/-- The line about the version of the program. -/
def versionLine : String :=
  Report.toolName ++ " " ++ Report.toolVersion ++ "\n"

/-! ## Options and formats -/

/-- The options of a call: those of its configuration file, made stricter or more
    lenient by its flags. -/
def ruleOptions (arguments : Arguments) (files : FileSystem) : Except Failure Options := do
  let options ←
    match arguments.value? .config with
    | some path => Options.load path files
    | none => .ok {}
  return { options with
    failOnWarning := options.failOnWarning || arguments.has .failOnWarning
    ignoreOrder := options.ignoreOrder || arguments.has .ignoreOrder
    ignoreEmptyValues := options.ignoreEmptyValues || arguments.has .ignoreEmptyValues
    enforceKeyPrefixes := options.enforceKeyPrefixes || arguments.has .enforceKeyPrefixes }

/-- The options of a check, where directories and texts to exclude may be given too. -/
def checkOptions (arguments : Arguments) (files : FileSystem) : Except Failure Options := do
  let options ← ruleOptions arguments files
  return { options with
    catalogDir := (arguments.value? .catalogDir).getD options.catalogDir
    templateDir := (arguments.value? .templateDir).getD options.templateDir
    checkTemplates := options.checkTemplates && !arguments.has .noTextCheck
    exclusions := (arguments.values .exclude).foldl SortedSet.insert options.exclusions }

/-- The format of the report: the one asked for, or the one that the extension of its
    file names, or plain text. -/
def reportFormat (arguments : Arguments) : ReportFormat :=
  ((arguments.value? .format).bind formatOf?).getD
    (((arguments.value? .output).bind ReportFormat.ofPath?).getD .text)

/-! ## Calls -/

/-- What a command does before its report. -/
def Command.act (command : Command) (files : FileSystem) : Action RunOutcome :=
  match command with
  | .check arguments => do
      let options ← .ofExcept id (checkOptions arguments files)
      CatalogLint.execute Pattern.read? options .warn files
  | .file path arguments => do
      let options ← .ofExcept id (ruleOptions arguments files)
      executeFile Pattern.read? options.normalized path files

/-- The arguments of a command. -/
def Command.arguments : Command → Arguments
  | .check arguments => arguments
  | .file _ arguments => arguments

/-! ## The files of a call -/

/-- A path that a call follows, and how many folders deep it looks behind it. -/
structure Look where
  path : String
  depth : Nat
  deriving DecidableEq, Repr

/-- No folder is deeper than this. -/
def anyDepth : Nat := 4096

/-- What a command looks at before its options are known: its configuration, its
    catalog, and where its report goes. -/
def Command.namedFiles (command : Command) : List Look :=
  let arguments := command.arguments
  let target := arguments.value? .output
  let paths :=
    (arguments.value? .config).toList ++ arguments.operand?.toList
      ++ (target.bind Path.parent?).toList ++ target.toList
  paths.map (⟨·, 0⟩)

/-- What a command looks at once its options are known: the directories of its
    catalogs and templates. -/
def Command.searchedFolders (command : Command) (files : FileSystem) : List Look :=
  match command with
  | .file _ _ => []
  | .check arguments =>
      match checkOptions arguments files with
      | .error _ => []
      | .ok options =>
          let options := options.normalized
          [options.catalogDir, options.templateDir].map fun text =>
            let pattern := DirPattern.parse text
            ⟨pattern.base, if pattern.recursive then anyDepth else 1⟩

/-! ## Results -/

/-- A call that fails, once it has printed something. -/
def failed (files : FileSystem) (output : String) (failure : Failure) : Result :=
  { exitCode := 1, output, errors := "Error: " ++ failure.headline ++ "\n", files }

/-- What is printed while a command is at work: its messages, if the report is plain text. -/
def streamed (arguments : Arguments) (seen : Trace) : String :=
  if reportFormat arguments = .text then messageLines seen.messages.toList else ""

/-- The report of an outcome, printed or written to a file.  Plain text is printed as a
    summary in both cases, behind what has been printed before. -/
def deliver (setup : Setup) (arguments : Arguments) (seen : Trace) (outcome : RunOutcome)
    (files : FileSystem) : Result :=
  let report := Report.ofOutcome setup.time outcome
  let format := reportFormat arguments
  let printed :=
    streamed arguments seen ++ if format = .text then report.summary setup.color else ""
  let exitCode := if outcome.valid then 0 else 1
  match arguments.value? .output with
  | none =>
      let output := if format = .text then printed else format.serialize report ++ "\n"
      { exitCode, output, files }
  | some target =>
      let path := format.destination target files
      match report.save format path files with
      | .error error => failed files printed (.unwritableReport error)
      | .ok files =>
          { exitCode, output := printed, errors := "Report saved to: " ++ path ++ "\n", files,
            saved := some path }

/-- Does what a command asks for. -/
def Command.execute (setup : Setup) (command : Command) (files : FileSystem) : Result :=
  match (command.act files).run {} with
  | .error failure seen => failed files (streamed command.arguments seen) failure
  | .ok outcome seen => deliver setup command.arguments seen outcome files

/-- A call of the program with its arguments. -/
def call (setup : Setup) (arguments : List String) (files : FileSystem) : Result :=
  match Command.read [] arguments with
  | .ok command => command.execute setup files
  | .error .version => { exitCode := 0, output := versionLine, files }
  | .error .help => { exitCode := 0, output := usage, files }
  | .error .usage => { exitCode := 2, errors := usage, files }

end CatalogLint.CommandLine
