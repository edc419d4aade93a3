import CatalogLint.Json.Reader
import CatalogLint.Options.Document
import CatalogLint.Run
import CatalogLint.Text.Encoding
import CatalogLint.Yaml.Node

/-! # Options from files

    The extension of a file says which format its options are in.  The file is read
    before its extension counts. -/

namespace CatalogLint

namespace ConfigFormat

/-- The format that the extension of a path names. -/
def ofPath? (path : String) : Option ConfigFormat :=
  match Path.extension? path with
  | some "json" => some .json
  | some "yaml" | some "yml" => some .yaml
  | _ => none

end ConfigFormat

namespace Options

/-- The options that a text of a format stands for, as they are written. -/
def ofText? (format : ConfigFormat) (text : String) : Option Options :=
  match format with
  | .json => (Json.read? text).bind ofDocument?
  | .yaml => (Yaml.read? text).bind ofDocument?

/-- The options in a file. -/
def load (path : String) (files : FileSystem) : Except Failure Options :=
  match (files.bytesAt? path).bind Text.readUtf8? with
  | none => .error (.unreadableConfig path)
  | some text =>
      match ConfigFormat.ofPath? path with
      | none => .error (.unsupportedConfig path)
      | some format =>
          match ofText? format text with
          | none => .error (.malformedConfig format path)
          | some options => .ok options.normalized

end Options

end CatalogLint
