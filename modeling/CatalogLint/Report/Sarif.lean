import CatalogLint.Report.Basic

/-! # SARIF logs

    The findings of a report in the format of code-scanning tools.  Every finding is a
    result; every rule that occurs is described once, in the order of first
    occurrence, with the severity of its first finding as the standard level. -/

namespace CatalogLint.Report

/-- The name of the tool. -/
def toolName : String := "i18n-lint"

/-- The version of the tool. -/
def toolVersion : String := "0.3.0"

/-- The schema that a log names. -/
def sarifSchema : String :=
  "https://raw.githubusercontent.com/oasis-tcs/sarif-spec/main/sarif-2.1/schema/"
    ++ "sarif-schema-2.1.0.json"

/-- A rule that some finding comes from, and its standard level. -/
structure SarifRule where
  category : Category
  level : Severity
  deriving DecidableEq, Repr

/-- The rules of findings, once each, in the order of first occurrence. -/
def sarifRules (findings : List Finding) : List SarifRule :=
  go [] findings
where
  /-- The rules that are not among those seen before. -/
  go (seen : List Category) : List Finding → List SarifRule
    | [] => []
    | finding :: rest =>
        if finding.category ∈ seen then go seen rest
        else ⟨finding.category, finding.severity⟩ :: go (finding.category :: seen) rest

/-- The result that a finding becomes. -/
structure SarifResult where
  ruleId : String
  level : Severity
  message : String
  /-- The file and the line, if the finding has a file. -/
  location : Option (String × Option Nat)
  deriving DecidableEq, Repr

/-- The result of a finding.  Without a file there is no location. -/
def sarifResult (finding : Finding) : SarifResult where
  ruleId := finding.category.ruleId
  level := finding.severity
  message := finding.message
  location := finding.file.map (·, finding.line)

/-- A log: the rules and the results. -/
structure SarifLog where
  rules : List SarifRule
  results : List SarifResult
  deriving DecidableEq, Repr

/-- The log of findings. -/
def sarifLog (findings : List Finding) : SarifLog where
  rules := sarifRules findings
  results := findings.map sarifResult

/-! ## The log as a document -/

/-- The description of a rule: its name with spaces. -/
def describe (category : Category) : String :=
  String.ofList (category.ruleName.toList.map fun c => if c = '-' then ' ' else c)

/-- An object with a text. -/
def textObject (text : String) : Json :=
  .object [("text", .string text)]

/-- A rule as a document. -/
def SarifRule.toJson (rule : SarifRule) : Json :=
  .object [
    ("id", .string rule.category.ruleId),
    ("name", .string rule.category.ruleName),
    ("shortDescription", textObject (describe rule.category)),
    ("defaultConfiguration", .object [("level", .string rule.level.name)])]

/-- A location as a document. -/
def locationJson (file : String) (line : Option Nat) : Json :=
  .object [("physicalLocation", .object (
    ("artifactLocation", .object [("uri", .string file)])
    :: (match line with
      | some line => [("region", .object [("startLine", .natural line)])]
      | none => [])))]

/-- A result as a document. -/
def SarifResult.toJson (result : SarifResult) : Json :=
  .object (
    [("ruleId", .string result.ruleId), ("level", .string result.level.name),
      ("message", textObject result.message)]
    ++ (match result.location with
      | some (file, line) => [("locations", .array [locationJson file line])]
      | none => []))

/-- A log as a document. -/
def SarifLog.toJson (log : SarifLog) : Json :=
  .object [
    ("$schema", .string sarifSchema),
    ("version", .string "2.1.0"),
    ("runs", .array [.object [
      ("tool", .object [("driver", .object [
        ("name", .string toolName),
        ("version", .string toolVersion),
        ("rules", .array (log.rules.map SarifRule.toJson))])]),
      ("results", .array (log.results.map SarifResult.toJson))]])]

end CatalogLint.Report
