import CatalogLint.Json.Writer
import CatalogLint.Report.Sarif
import CatalogLint.Report.Summary
import CatalogLint.Yaml.Writer

/-! # Report formats

    The formats that a report can be written in, how they are named, and where a report
    goes. -/

namespace CatalogLint

/-- A format of reports. -/
inductive ReportFormat where
  | text
  | json
  | yaml
  | sarif
  deriving DecidableEq, Repr

namespace ReportFormat

/-- The format of a name, without regard to the case of ASCII letters. -/
def ofName? (name : String) : Option ReportFormat :=
  let lower := String.ofList (name.toList.map Char.toLower)
  if lower = "text" ∨ lower = "txt" then some .text
  else if lower = "json" then some .json
  else if lower = "yaml" ∨ lower = "yml" then some .yaml
  else if lower = "sarif" then some .sarif
  else none

/-- The format that the extension of a path names. -/
def ofPath? (path : String) : Option ReportFormat :=
  (Path.extension? path).bind ofName?

/-- The extension of report files of a format. -/
def extension : ReportFormat → String
  | .text => "txt"
  | .json => "json"
  | .yaml => "yaml"
  | .sarif => "sarif"

/-- A report in a format. -/
def serialize (format : ReportFormat) (report : Report) : String :=
  match format with
  | .text => report.plainText
  | .json => report.toJson.pretty
  | .yaml => Yaml.write report.toJson
  | .sarif => (Report.sarifLog report.findings).toJson.pretty

/-- Where a report goes: to the target, or to a file in it if it is a folder. -/
def destination (format : ReportFormat) (target : String) (files : FileSystem) : String :=
  if files.isFolderAt target then Path.join target ("i18n-lint-report." ++ format.extension)
  else target

end ReportFormat

namespace Report

/-- The file system with a report written to a path. -/
def save (report : Report) (format : ReportFormat) (path : String) (files : FileSystem) :
    Except FileSystem.PathError FileSystem :=
  files.withFile path (format.serialize report).toUTF8

end Report

end CatalogLint
