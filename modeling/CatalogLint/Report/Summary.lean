import CatalogLint.Report.Basic

/-! # Summaries

    The summary of a report for a reader: the counts, how often each rule was broken,
    and the verdict.  `summary` is shown at the end of a run, in color or without;
    `plainText` goes into report files and lists the findings first. -/

namespace CatalogLint.Report

/-! ## Counting by rule -/

/-- What findings are counted under: the identifier and the name of their rule, and their
    severity. -/
structure RuleKey where
  ruleId : String
  ruleName : String
  severity : Severity
  deriving DecidableEq, Repr

namespace RuleKey

/-- The key of a rule at a severity. -/
def of (category : Category) (severity : Severity) : RuleKey :=
  ⟨category.ruleId, category.ruleName, severity⟩

/-- The order of keys: by identifier, then by name, and errors before warnings. -/
def Before (first second : RuleKey) : Prop :=
  first.ruleId < second.ruleId
    ∨ first.ruleId = second.ruleId
      ∧ (first.ruleName < second.ruleName
        ∨ first.ruleName = second.ruleName
          ∧ first.severity = .error ∧ second.severity = .warning)

instance (first second : RuleKey) : Decidable (first.Before second) :=
  inferInstanceAs (Decidable (_ ∨ _))

end RuleKey

/-- The key that a finding is counted under. -/
def ruleKey (finding : Finding) : RuleKey :=
  .of finding.category finding.severity

/-- How often a rule was broken at one severity. -/
structure RuleCount where
  category : Category
  severity : Severity
  count : Nat
  deriving DecidableEq, Repr

/-- The key that an entry stands under. -/
def RuleCount.key (entry : RuleCount) : RuleKey :=
  .of entry.category entry.severity

/-- The counts with one more finding: the entry under its key is raised, and if there is none
    one is put in at its place. -/
def countFinding (finding : Finding) : List RuleCount → List RuleCount
  | [] => [⟨finding.category, finding.severity, 1⟩]
  | entry :: rest =>
      if (ruleKey finding).Before entry.key then
        ⟨finding.category, finding.severity, 1⟩ :: entry :: rest
      else if ruleKey finding = entry.key then { entry with count := entry.count + 1 } :: rest
      else entry :: countFinding finding rest

/-- The counts of the findings by rule and severity, in the order of their keys. -/
def countByRule (findings : List Finding) : List RuleCount :=
  findings.foldl (fun counts finding => countFinding finding counts) []

/-! ## Color -/

/-- A text in the style of an escape code, if colors are on. -/
def styled (color : Bool) (code text : String) : String :=
  if color then "\x1b[" ++ code ++ "m" ++ text ++ "\x1b[0m" else text

/-- A text filled with spaces behind it up to a width. -/
def padRight (width : Nat) (text : String) : String :=
  text ++ String.ofList (List.replicate (width - text.length) ' ')

/-- A text filled with spaces before it up to a width. -/
def padLeft (width : Nat) (text : String) : String :=
  String.ofList (List.replicate (width - text.length) ' ') ++ text

/-- The escape code of a severity. -/
def severityCode : Severity → String
  | .error => "31"
  | .warning => "33"

/-! ## The summary of a run -/

/-- The line about one rule. -/
def ruleLine (color : Bool) (entry : RuleCount) : String :=
  "  " ++ entry.category.ruleId ++ " " ++ padRight 24 entry.category.ruleName ++ " "
    ++ styled color (severityCode entry.severity) (padLeft 7 entry.severity.name)
    ++ "  " ++ toString entry.count ++ "\n"

/-- The lines about the rules that were broken. -/
def ruleLines (color : Bool) (findings : List Finding) : String :=
  match countByRule findings with
  | [] => ""
  | counts =>
      styled color "1;33" "FINDINGS BY RULE" ++ "\n"
        ++ String.join (counts.map (ruleLine color)) ++ "\n"

/-- The summary of a report. -/
def summary (color : Bool) (report : Report) : String :=
  let counts := report.statistics
  "\n" ++ styled color "1;36" "=== I18N-LINT SUMMARY ===" ++ "\n\n"
    ++ "  Catalogs: " ++ toString counts.catalogs ++ " in " ++ toString counts.groups
    ++ " group(s)\n"
    ++ "  Templates: " ++ toString counts.templates ++ "\n"
    ++ "  Known keys: " ++ toString counts.keys ++ "\n\n"
    ++ ruleLines color report.findings
    ++ "  Errors: " ++ styled color "1;31" (toString counts.errors)
    ++ "  Warnings: " ++ styled color "1;33" (toString counts.warnings) ++ "\n"
    ++ "  Result: "
    ++ (if report.valid then styled color "1;32" "VALID" else styled color "1;31" "INVALID")
    ++ "\n"

/-! ## The text of a report file -/

/-- A finding on a line, with as much of its place as it has. -/
def findingLine (finding : Finding) : String :=
  let place :=
    match finding.file, finding.line with
    | some file, some line => file ++ ":" ++ toString line ++ ": "
    | some file, none => file ++ ": "
    | none, some line => toString line ++ ": "
    | none, none => ""
  place ++ finding.severity.name ++ ": " ++ finding.message

/-- The findings line by line, and the counts and the verdict below them. -/
def plainText (report : Report) : String :=
  let counts := report.statistics
  String.join (report.findings.map fun finding => findingLine finding ++ "\n")
    ++ (if report.findings.isEmpty then "" else "\n")
    ++ "Catalogs: " ++ toString counts.catalogs ++ "  Groups: " ++ toString counts.groups
    ++ "  Templates: " ++ toString counts.templates ++ "  Keys: " ++ toString counts.keys ++ "\n"
    ++ "Errors: " ++ toString counts.errors ++ "  Warnings: " ++ toString counts.warnings ++ "\n"
    ++ "Result: " ++ (if report.valid then "VALID" else "INVALID") ++ "\n"

end CatalogLint.Report
