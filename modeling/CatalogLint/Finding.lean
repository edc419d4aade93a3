/-! # Findings

    What the checks report.  Every finding belongs to one of twenty rules, weighs as
    an error or a warning, and may point to a line and a file. -/

namespace CatalogLint

/-! ## Severity -/

/-- How much a finding weighs. -/
inductive Severity where
  | error
  | warning
  deriving DecidableEq, Repr

namespace Severity

/-- The written name of a severity. -/
def name : Severity → String
  | .error => "error"
  | .warning => "warning"

/-- The severity of a written name. -/
def ofName? (name : String) : Option Severity :=
  [error, warning].find? (·.name == name)

end Severity

/-! ## Rules -/

/-- The rule that a finding comes from. -/
inductive Category where
  | trailingWhitespace
  | malformedLine
  | keyCharset
  | keyPrefix
  | untrimmedValue
  | emptyValue
  | duplicateKey
  | keyOrder
  | forbiddenPattern
  | unclosedTag
  | unopenedTag
  | missingKey
  | extraKey
  | markupMismatch
  | mixedTranslateSyntax
  | unknownKey
  | malformedFilter
  | untranslatedText
  | unusedKey
  | configuration
  deriving DecidableEq, Repr

namespace Category

/-- Every rule, in the order of the rule identifiers. -/
def all : List Category :=
  [trailingWhitespace, malformedLine, keyCharset, keyPrefix, untrimmedValue, emptyValue,
    duplicateKey, keyOrder, forbiddenPattern, unclosedTag, unopenedTag, missingKey, extraKey,
    markupMismatch, mixedTranslateSyntax, unknownKey, malformedFilter, untranslatedText,
    unusedKey, configuration]

/-- The stable identifier of a rule. -/
def ruleId : Category → String
  | trailingWhitespace => "I18N001"
  | malformedLine => "I18N002"
  | keyCharset => "I18N003"
  | keyPrefix => "I18N004"
  | untrimmedValue => "I18N005"
  | emptyValue => "I18N006"
  | duplicateKey => "I18N007"
  | keyOrder => "I18N008"
  | forbiddenPattern => "I18N009"
  | unclosedTag => "I18N010"
  | unopenedTag => "I18N011"
  | missingKey => "I18N012"
  | extraKey => "I18N013"
  | markupMismatch => "I18N014"
  | mixedTranslateSyntax => "I18N015"
  | unknownKey => "I18N016"
  | malformedFilter => "I18N017"
  | untranslatedText => "I18N018"
  | unusedKey => "I18N019"
  | configuration => "I18N020"

/-- The written name of a rule. -/
def ruleName : Category → String
  | trailingWhitespace => "trailing-whitespace"
  | malformedLine => "malformed-line"
  | keyCharset => "key-charset"
  | keyPrefix => "key-prefix"
  | untrimmedValue => "untrimmed-value"
  | emptyValue => "empty-value"
  | duplicateKey => "duplicate-key"
  | keyOrder => "key-order"
  | forbiddenPattern => "forbidden-pattern"
  | unclosedTag => "unclosed-tag"
  | unopenedTag => "unopened-tag"
  | missingKey => "missing-key"
  | extraKey => "extra-key"
  | markupMismatch => "markup-mismatch"
  | mixedTranslateSyntax => "mixed-translate-syntax"
  | unknownKey => "unknown-key"
  | malformedFilter => "malformed-filter"
  | untranslatedText => "untranslated-text"
  | unusedKey => "unused-key"
  | configuration => "configuration"

/-- The rule of a written name. -/
def ofRuleName? (name : String) : Option Category :=
  all.find? (·.ruleName == name)

end Category

/-! ## Findings and messages -/

/-- One problem, with the place it was found at as far as there is one. -/
structure Finding where
  category : Category
  severity : Severity
  message : String
  line : Option Nat := none
  file : Option String := none
  deriving DecidableEq, Repr

/-- A message as it is handed on while the checks run, with its line if it has one. -/
structure Message where
  text : String
  line : Option Nat
  deriving DecidableEq, Repr

namespace Finding

/-- A finding that makes the run invalid. -/
def error (category : Category) (message : String) : Finding :=
  { category, severity := .error, message }

/-- A finding that makes the run invalid only on request. -/
def warning (category : Category) (message : String) : Finding :=
  { category, severity := .warning, message }

/-- The finding at a line. -/
def atLine (finding : Finding) (line : Nat) : Finding :=
  { finding with line := some line }

/-- The finding in a file. -/
def inFile (finding : Finding) (file : String) : Finding :=
  { finding with file := some file }

/-- The finding weighs as an error. -/
def isError (finding : Finding) : Bool :=
  finding.severity == .error

/-- The finding weighs as a warning. -/
def isWarning (finding : Finding) : Bool :=
  finding.severity == .warning

/-- The text of the finding as it is handed on; a warning is marked as one. -/
def rendered (finding : Finding) : String :=
  match finding.severity with
  | .error => finding.message
  | .warning => "[ WARNING ] " ++ finding.message

/-- The finding as it is handed on. -/
def toMessage (finding : Finding) : Message :=
  ⟨finding.rendered, finding.line⟩

end Finding

end CatalogLint
