import CatalogLint.Document
import CatalogLint.Run

/-! # Reports

    A report is the record of a finished run: when it was made, the verdict, the counts
    and the findings.  It can be written as a document and read back from one. -/

namespace CatalogLint

open Document

/-- The record of a finished run. -/
structure Report where
  createdAt : String
  valid : Bool
  statistics : Statistics
  findings : List Finding
  deriving DecidableEq, Repr

namespace Report

/-- The report of an outcome, made at a time. -/
def ofOutcome (createdAt : String) (outcome : RunOutcome) : Report where
  createdAt
  valid := outcome.valid
  statistics := outcome.statistics
  findings := outcome.findings

end Report

/-! ## Writing -/

namespace Statistics

/-- The counts as a document. -/
def toJson (statistics : Statistics) : Json :=
  .object [
    ("catalogs", .natural statistics.catalogs),
    ("groups", .natural statistics.groups),
    ("templates", .natural statistics.templates),
    ("keys", .natural statistics.keys),
    ("errors", .natural statistics.errors),
    ("warnings", .natural statistics.warnings)]

end Statistics

namespace Finding

/-- A finding as a document; a line or a file that it lacks is left out. -/
def toJson (finding : Finding) : Json :=
  .object (
    [("category", .string finding.category.ruleName),
      ("severity", .string finding.severity.name),
      ("message", .string finding.message)]
    ++ (match finding.line with
      | some line => [("line", .natural line)]
      | none => [])
    ++ (match finding.file with
      | some file => [("file", .string file)]
      | none => []))

end Finding

namespace Report

/-- A report as a document. -/
def toJson (report : Report) : Json :=
  .object [
    ("created_at", .string report.createdAt),
    ("valid", .bool report.valid),
    ("statistics", report.statistics.toJson),
    ("findings", .array (report.findings.map Finding.toJson))]

end Report

/-! ## Reading -/

section Reading

variable {δ : Type} [Document δ]

/-- A word of a fixed list: a text, or a map from the word to nothing. -/
def word? (document : δ) : Option String :=
  match text? document with
  | some text => some text
  | none =>
      match members? document with
      | some [(name, value)] => if isNull value then some name else none
      | _ => none

/-- A value that may stand for nothing. -/
def nullable? {α : Type} (read : δ → Option α) (document : δ) : Option (Option α) :=
  if isNull document then some none else (read document).map some

/-- The counts read from a document. -/
def Statistics.ofDocument? (document : δ) : Option Statistics := do
  let fields ←
    fields? ["catalogs", "groups", "templates", "keys", "errors", "warnings"] 6 document
  return {
    catalogs := ← required? natural? "catalogs" fields
    groups := ← required? natural? "groups" fields
    templates := ← required? natural? "templates" fields
    keys := ← required? natural? "keys" fields
    errors := ← required? natural? "errors" fields
    warnings := ← required? natural? "warnings" fields }

/-- A finding read from a document. -/
def Finding.ofDocument? (document : δ) : Option Finding := do
  let fields ← fields? ["category", "severity", "message", "line", "file"] 5 document
  return {
    category :=
      ← required? (fun value => (word? value).bind Category.ofRuleName?) "category" fields
    severity := ← required? (fun value => (word? value).bind Severity.ofName?) "severity" fields
    message := ← required? text? "message" fields
    line := ← optional? none (nullable? natural?) "line" fields
    file := ← optional? none (nullable? text?) "file" fields }

/-- A report read from a document. -/
def Report.ofDocument? (document : δ) : Option Report := do
  let fields ← fields? ["created_at", "valid", "statistics", "findings"] 4 document
  return {
    createdAt := ← required? text? "created_at" fields
    valid := ← required? flag? "valid" fields
    statistics := ← required? Statistics.ofDocument? "statistics" fields
    findings := ← required? (listOf? Finding.ofDocument?) "findings" fields }

end Reading

end CatalogLint
