import CatalogLint.Report.Format

/-! # Arguments

    The program has two commands: `check` looks at everything, `file` at one catalog.
    Arguments are read from left to right, and the first one that is wrong, or that asks
    for help or the version, decides. -/

namespace CatalogLint.CommandLine

/-! ## What can be asked for -/

/-- An option without a value. -/
inductive Flag where
  | verbose
  | failOnWarning
  | ignoreOrder
  | ignoreEmptyValues
  | enforceKeyPrefixes
  | noTextCheck
  deriving DecidableEq, Repr

/-- An option with a value. -/
inductive Setting where
  | config
  | catalogDir
  | templateDir
  | exclude
  | format
  | output
  deriving DecidableEq, Repr

/-- What an option stands for. -/
inductive Choice where
  | flag (flag : Flag)
  | setting (setting : Setting)
  | help
  | version
  deriving DecidableEq, Repr

/-- The place where an option stands: before the command, or behind it. -/
inductive Scope where
  | top
  | check
  | file
  deriving DecidableEq, Repr

/-- The options that both commands have, with their long names and their letters. -/
def sharedChoices : List (String × Option Char × Choice) :=
  [("verbose", some 'v', .flag .verbose), ("help", some 'h', .help),
    ("config", some 'c', .setting .config), ("fail-on-warning", none, .flag .failOnWarning),
    ("ignore-order", none, .flag .ignoreOrder),
    ("ignore-empty-values", none, .flag .ignoreEmptyValues),
    ("enforce-key-prefixes", none, .flag .enforceKeyPrefixes),
    ("format", some 'f', .setting .format), ("output", some 'o', .setting .output)]

/-- The options of a place, with their long names and their letters. -/
def choices : Scope → List (String × Option Char × Choice)
  | .top =>
      [("verbose", some 'v', .flag .verbose), ("help", some 'h', .help),
        ("version", some 'V', .version)]
  | .file => sharedChoices
  | .check =>
      sharedChoices
        ++ [("catalog-dir", none, .setting .catalogDir),
          ("template-dir", none, .setting .templateDir),
          ("no-text-check", none, .flag .noTextCheck), ("exclude", none, .setting .exclude)]

/-- The option of a long name. -/
def choiceOfName? (scope : Scope) (name : String) : Option Choice :=
  ((choices scope).find? fun entry => entry.1 == name).map fun entry => entry.2.2

/-- The option of a letter. -/
def choiceOfLetter? (scope : Scope) (letter : Char) : Option Choice :=
  ((choices scope).find? fun entry => entry.2.1 == some letter).map fun entry => entry.2.2

/-! ## What was asked for -/

/-- An argument that has been understood. -/
inductive Given where
  | flag (flag : Flag)
  | setting (setting : Setting) (value : String)
  | operand (text : String)
  deriving DecidableEq, Repr

/-- Why the reading of arguments ends before all of them are understood. -/
inductive Stop where
  | usage
  | help
  | version
  deriving DecidableEq, Repr

/-- The format of a name as it has to be written here. -/
def formatOf? (name : String) : Option ReportFormat :=
  [("text", ReportFormat.text), ("json", .json), ("yaml", .yaml), ("sarif", .sarif)].lookup name

/-- The value fits the option.  Paths must not be empty. -/
def fits (setting : Setting) (value : String) : Bool :=
  match setting with
  | .config | .output => !value.isEmpty
  | .format => (formatOf? value).isSome
  | .catalogDir | .templateDir | .exclude => true

/-- One more argument.  Only texts to exclude may be given more than once; an operand is
    the path of a file, and only one command takes one. -/
def accept (scope : Scope) (seen : List Given) (given : Given) : Except Stop (List Given) :=
  let fresh : Bool :=
    match given with
    | .flag flag => !seen.contains (.flag flag)
    | .setting .exclude _ => true
    | .setting setting value =>
        fits setting value
          && !seen.any fun
            | .setting other _ => other == setting
            | _ => false
    | .operand text =>
        scope == .file && !text.isEmpty
          && !seen.any fun
            | .operand _ => true
            | _ => false
  if fresh then .ok (seen ++ [given]) else .error .usage

/-- What a group of letters behind one dash comes to. -/
inductive Letters where
  /-- All of it is understood. -/
  | done (seen : List Given)
  /-- The value of an option has to follow. -/
  | wants (seen : List Given) (setting : Setting)

/-- The letters behind a dash.  The letter of an option with a value takes the rest of
    the letters for that value, and an equals sign may stand between them. -/
def readLetters (scope : Scope) (seen : List Given) : List Char → Except Stop Letters
  | [] => .ok (.done seen)
  | letter :: rest =>
      match choiceOfLetter? scope letter with
      | none => .error .usage
      | some .help => .error .help
      | some .version => .error .version
      | some (.flag flag) =>
          match accept scope seen (.flag flag) with
          | .error stop => .error stop
          | .ok seen => readLetters scope seen rest
      | some (.setting setting) =>
          match rest with
          | [] => .ok (.wants seen setting)
          | '=' :: value =>
              (accept scope seen (.setting setting (String.ofList value))).map .done
          | value => (accept scope seen (.setting setting (String.ofList value))).map .done

/-- An option by its long name, with a value behind an equals sign if there is one. -/
def readLong (scope : Scope) (seen : List Given) (name : String) (value : Option String) :
    Except Stop Letters :=
  match choiceOfName? scope name, value with
  | some .help, none => .error .help
  | some .version, none => .error .version
  | some (.flag flag), none => (accept scope seen (.flag flag)).map .done
  | some (.setting setting), some value => (accept scope seen (.setting setting value)).map .done
  | some (.setting setting), none => .ok (.wants seen setting)
  | _, _ => .error .usage

/-- A text cut at its first equals sign. -/
def cutAtEquals (text : List Char) : String × Option String :=
  let name := text.takeWhile (· != '=')
  match text.drop name.length with
  | [] => (String.ofList name, none)
  | _ :: value => (String.ofList name, some (String.ofList value))

/-- The text of an argument can be the value of the option before it. -/
def isValue (text : String) : Bool :=
  text == "-" || !text.startsWith "-"

/-- The arguments of a command, all of them.  Behind two dashes there are operands
    only. -/
def readAll (scope : Scope) (onlyOperands : Bool) (waiting : Option Setting)
    (seen : List Given) : List String → Except Stop (List Given)
  | [] => if waiting.isSome then .error .usage else .ok seen
  | text :: rest =>
      let goOn (letters : Except Stop Letters) : Except Stop (List Given) :=
        match letters with
        | .error stop => .error stop
        | .ok (.done seen) => readAll scope false none seen rest
        | .ok (.wants seen setting) => readAll scope false (some setting) seen rest
      match waiting with
      | some setting =>
          if isValue text then goOn ((accept scope seen (.setting setting text)).map .done)
          else .error .usage
      | none =>
          if onlyOperands then
            match accept scope seen (.operand text) with
            | .error stop => .error stop
            | .ok seen => readAll scope true none seen rest
          else if isValue text then goOn ((accept scope seen (.operand text)).map .done)
          else
            match text.toList with
            | ['-', '-'] => readAll scope true none seen rest
            | '-' :: '-' :: long =>
                let (name, value) := cutAtEquals long
                goOn (readLong scope seen name value)
            | letters => goOn (readLetters scope seen letters.tail)

/-! ## Commands -/

/-- The arguments of a command by what they are for. -/
structure Arguments where
  given : List Given
  deriving DecidableEq, Repr

namespace Arguments

/-- A flag was given. -/
def has (arguments : Arguments) (flag : Flag) : Bool :=
  arguments.given.contains (.flag flag)

/-- The values of an option, in their order. -/
def values (arguments : Arguments) (setting : Setting) : List String :=
  arguments.given.filterMap fun
    | .setting other value => if other = setting then some value else none
    | _ => none

/-- The value of an option that can be given once. -/
def value? (arguments : Arguments) (setting : Setting) : Option String :=
  (arguments.values setting).head?

/-- The path of the file to look at. -/
def operand? (arguments : Arguments) : Option String :=
  arguments.given.findSome? fun
    | .operand text => some text
    | _ => none

end Arguments

/-- What the program is asked to do. -/
inductive Command where
  | check (arguments : Arguments)
  | file (path : String) (arguments : Arguments)
  deriving DecidableEq, Repr

/-- The command that arguments ask for.  Before its name there may be options that
    belong to no command. -/
def Command.read (seen : List Given) : List String → Except Stop Command
  | [] => .error .usage
  | "check" :: rest => (readAll .check false none [] rest).map fun given => .check ⟨given⟩
  | "file" :: rest =>
      match readAll .file false none [] rest with
      | .error stop => .error stop
      | .ok given =>
          match Arguments.operand? ⟨given⟩ with
          | some path => .ok (.file path ⟨given⟩)
          | none => .error .usage
  | "help" :: _ => .error .help
  | text :: rest =>
      if isValue text then .error .usage
      else
        let result :=
          match text.toList with
          | '-' :: '-' :: long =>
              let (name, value) := cutAtEquals long
              readLong .top seen name value
          | letters => readLetters .top seen letters.tail
        match result with
        | .error stop => .error stop
        | .ok (.done seen) => Command.read seen rest
        | .ok (.wants _ _) => .error .usage

end CatalogLint.CommandLine
