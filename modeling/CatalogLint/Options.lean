import CatalogLint.Pattern.Reader
import CatalogLint.Sorted

/-! # Options

    What a run looks at and which rules it applies.  `Options.normalized` brings the
    options into the form that a run uses, and `Options.compile` reads the patterns that
    catalogs are checked with, which have to be right before anything is checked. -/

namespace CatalogLint

/-- A pattern that must not occur in the values of one language. -/
structure ForbiddenPattern where
  regex : String
  /-- Letters match only in their own case. -/
  sensitive : Bool := false
  message : String
  deriving DecidableEq, Repr

/-- The options of a run. -/
structure Options where
  catalogDir : String := "./src/i18n/"
  templateDir : String := "./src/**/"
  /-- Templates are searched for literal text. -/
  checkTemplates : Bool := true
  /-- Warnings make the run invalid. -/
  failOnWarning : Bool := false
  ignoreOrder : Bool := false
  ignoreEmptyValues : Bool := false
  indentUnit : String := "\t"
  /-- Texts that may stay as they are in templates. -/
  exclusions : SortedSet := .empty
  /-- The patterns that must not occur, by language. -/
  forbiddenPatterns : SortedMap (List ForbiddenPattern) := .empty
  enforceKeyPrefixes : Bool := false
  keyPrefixes : List String :=
    ["title_", "detail_", "action_", "placeholder_", "validation_", "variable_", "plural_",
      "pluralCount_"]
  catalogExtension : String := "json"
  templateExtensions : List String := ["html"]

namespace Options

/-! ## Normal form -/

/-- A directory pattern that ends with a separator; an empty one stands for the
    given default. -/
def normalDir (standard dir : String) : String :=
  let dir := if dir.isEmpty then standard else dir
  if dir.toList.getLast? = some '/' then dir else dir ++ "/"

/-- An extension without leading dots. -/
def normalExtension (extension : String) : String :=
  String.ofList (extension.toList.dropWhile (· == '.'))

/-- The options as a run uses them: directories end with a separator, an empty indent
    is a tab, and extensions have no leading dot. -/
def normalized (options : Options) : Options :=
  { options with
    catalogDir := normalDir "./src/i18n/" options.catalogDir
    templateDir := normalDir "./src/**/" options.templateDir
    indentUnit := if options.indentUnit.isEmpty then "\t" else options.indentUnit
    catalogExtension := normalExtension options.catalogExtension
    templateExtensions := options.templateExtensions.map normalExtension }

end Options

/-! ## Patterns -/

/-- How the text of a pattern is read, where the flag says that letters match in either case;
    a text that is wrong, or that asks for too much, is not an expression. -/
abbrev PatternReader := String → Bool → Option Pattern.Expr

/-- A forbidden pattern that is ready for matching. -/
structure CompiledPattern where
  expr : Pattern.Expr
  message : String

namespace ForbiddenPattern

/-- The pattern ready for matching, if its expression is right. -/
def compile? (read? : PatternReader) (pattern : ForbiddenPattern) : Option CompiledPattern :=
  (read? pattern.regex (!pattern.sensitive)).map (⟨·, pattern.message⟩)

end ForbiddenPattern

/-- A forbidden pattern whose expression is wrong, with its language. -/
structure BadPattern where
  language : String
  regex : String
  deriving DecidableEq, Repr

/-- What keeps catalogs from being checked: a forbidden pattern that is wrong, or an indent
    unit with which the pattern of lines cannot be built. -/
inductive PatternError where
  | forbidden (bad : BadPattern)
  | line (indentUnit : String)
  deriving DecidableEq, Repr

/-- The characters that mean something in a pattern, and stand for themselves behind a
    backslash only. -/
def isPatternSyntax (c : Char) : Bool :=
  "\\.+*?()|[]\x7b\x7d^$#&-~".toList.contains c

/-- The pattern that a text and nothing else matches. -/
def literalPattern (text : String) : String :=
  String.ofList (text.toList.flatMap fun c => if isPatternSyntax c then ['\\', c] else [c])

/-- The pattern of the lines with a key and its value, indented by a unit or not. -/
def linePattern (indentUnit : String) : String :=
  "^(?:" ++ literalPattern indentUnit ++ ")?\"([^\"]+)\": \"([^\"]*)\",?\\s*$"

namespace Options

variable (read? : PatternReader)

/-- The patterns of one language ready for matching, or the first wrong one. -/
def compileAll (language : String) :
    List ForbiddenPattern → Except BadPattern (List CompiledPattern)
  | [] => .ok []
  | pattern :: rest =>
      match pattern.compile? read? with
      | none => .error ⟨language, pattern.regex⟩
      | some compiled => (compileAll language rest).map (compiled :: ·)

/-- The patterns of all languages ready for matching, in the order of the languages;
    the first wrong one is the error. -/
def compileLanguages :
    List (String × List ForbiddenPattern) → Except BadPattern (List (String × List CompiledPattern))
  | [] => .ok []
  | (language, patterns) :: rest =>
      match compileAll read? language patterns with
      | .error bad => .error bad
      | .ok compiled => (compileLanguages rest).map ((language, compiled) :: ·)

/-- The forbidden patterns of the options, ready for matching. -/
def compileForbidden (options : Options) :
    Except BadPattern (List (String × List CompiledPattern)) :=
  compileLanguages read? options.forbiddenPatterns.entries

/-- The patterns that catalogs are checked with.  The forbidden patterns come first, and they
    are what is kept; the pattern of lines must be there as well. -/
def compile (options : Options) : Except PatternError (List (String × List CompiledPattern)) :=
  match options.compileForbidden read? with
  | .error bad => .error (.forbidden bad)
  | .ok compiled =>
      match read? (linePattern options.indentUnit) false with
      | none => .error (.line options.indentUnit)
      | some _ => .ok compiled

variable {read?} {options : Options} {compiled : List (String × List CompiledPattern)}

/-- The forbidden patterns are kept if they are right and the pattern of lines is there. -/
theorem compile_eq_ok_iff :
    options.compile read? = .ok compiled
      ↔ options.compileForbidden read? = .ok compiled
        ∧ (read? (linePattern options.indentUnit) false).isSome = true := by
  rw [compile]
  cases options.compileForbidden read? with
  | error bad => exact iff_of_false nofun (fun h => nomatch h.1)
  | ok _ =>
      cases read? (linePattern options.indentUnit) false with
      | none => exact iff_of_false nofun (fun h => nomatch h.2)
      | some _ => simp only [Except.ok.injEq, Option.isSome_some, and_true]

/-- A forbidden pattern is what keeps catalogs from being checked if it is wrong, whatever the
    indent unit is. -/
theorem compile_eq_forbidden_iff {bad : BadPattern} :
    options.compile read? = .error (.forbidden bad)
      ↔ options.compileForbidden read? = .error bad := by
  rw [compile]
  cases options.compileForbidden read? with
  | error _ => simp only [Except.error.injEq, PatternError.forbidden.injEq]
  | ok _ =>
      cases read? (linePattern options.indentUnit) false with
      | none => exact iff_of_false nofun nofun
      | some _ => exact iff_of_false nofun nofun

/-- The pattern of lines is what keeps catalogs from being checked if it cannot be built, with
    forbidden patterns that are right. -/
theorem compile_eq_line (hforbidden : options.compileForbidden read? = .ok compiled)
    (hline : read? (linePattern options.indentUnit) false = none) :
    options.compile read? = .error (.line options.indentUnit) := by
  rw [compile, hforbidden, hline]

end Options

end CatalogLint
