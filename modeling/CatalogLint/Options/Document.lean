import CatalogLint.Document
import CatalogLint.Options

/-! # Options as documents

    Options are read from a record whose fields may be missing, and written with all
    of their fields. -/

namespace CatalogLint

open Document

namespace ForbiddenPattern

variable {δ : Type} [Document δ]

/-- The fields of a forbidden pattern, in the order in which they may stand without
    their names. -/
def fieldNames : List String := ["regex", "sensitive", "msg"]

/-- A forbidden pattern read from a document. -/
def ofDocument? (document : δ) : Option ForbiddenPattern := do
  let fields ← fields? fieldNames 3 document
  let regex ← required? text? "regex" fields
  let sensitive ← optional? false flag? "sensitive" fields
  let message ← required? text? "msg" fields
  return { regex, sensitive, message }

/-- A forbidden pattern as a document. -/
def toJson (pattern : ForbiddenPattern) : Json :=
  .object [("regex", .string pattern.regex), ("sensitive", .bool pattern.sensitive),
    ("msg", .string pattern.message)]

end ForbiddenPattern

namespace Options

variable {δ : Type} [Document δ]

/-- The fields of options, in the order in which they may stand without their names. -/
def fieldNames : List String :=
  ["catalog_dir", "template_dir", "check_templates", "fail_on_warning", "ignore_order",
    "ignore_empty_values", "indent_unit", "exclusions", "forbidden_patterns",
    "enforce_key_prefixes", "key_prefixes", "catalog_extension", "template_extensions"]

/-- A map from languages to their patterns; of a language that occurs twice, the last
    list counts. -/
def patternsOf? (document : δ) : Option (SortedMap (List ForbiddenPattern)) := do
  let members ← members? document
  let entries ← members.mapM fun (language, patterns) =>
    (listOf? ForbiddenPattern.ofDocument? patterns).map (language, ·)
  return .ofList entries

/-- Options read from a document; a field that is not there keeps its standard value. -/
def ofDocument? (document : δ) : Option Options := do
  let standard : Options := {}
  let fields ← fields? fieldNames 0 document
  return {
    catalogDir := ← optional? standard.catalogDir text? "catalog_dir" fields
    templateDir := ← optional? standard.templateDir text? "template_dir" fields
    checkTemplates := ← optional? standard.checkTemplates flag? "check_templates" fields
    failOnWarning := ← optional? standard.failOnWarning flag? "fail_on_warning" fields
    ignoreOrder := ← optional? standard.ignoreOrder flag? "ignore_order" fields
    ignoreEmptyValues :=
      ← optional? standard.ignoreEmptyValues flag? "ignore_empty_values" fields
    indentUnit := ← optional? standard.indentUnit text? "indent_unit" fields
    exclusions :=
      ← optional? standard.exclusions (fun value => (texts? value).map .ofList) "exclusions"
        fields
    forbiddenPatterns :=
      ← optional? standard.forbiddenPatterns patternsOf? "forbidden_patterns" fields
    enforceKeyPrefixes :=
      ← optional? standard.enforceKeyPrefixes flag? "enforce_key_prefixes" fields
    keyPrefixes := ← optional? standard.keyPrefixes texts? "key_prefixes" fields
    catalogExtension := ← optional? standard.catalogExtension text? "catalog_extension" fields
    templateExtensions :=
      ← optional? standard.templateExtensions texts? "template_extensions" fields }

/-- A list of texts as a document. -/
def textsJson (texts : List String) : Json :=
  .array (texts.map .string)

/-- Options as a document with all fields. -/
def toJson (options : Options) : Json :=
  .object [
    ("catalog_dir", .string options.catalogDir),
    ("template_dir", .string options.templateDir),
    ("check_templates", .bool options.checkTemplates),
    ("fail_on_warning", .bool options.failOnWarning),
    ("ignore_order", .bool options.ignoreOrder),
    ("ignore_empty_values", .bool options.ignoreEmptyValues),
    ("indent_unit", .string options.indentUnit),
    ("exclusions", textsJson options.exclusions.toList),
    ("forbidden_patterns",
      .object (options.forbiddenPatterns.entries.map fun (language, patterns) =>
        (language, .array (patterns.map ForbiddenPattern.toJson)))),
    ("enforce_key_prefixes", .bool options.enforceKeyPrefixes),
    ("key_prefixes", textsJson options.keyPrefixes),
    ("catalog_extension", .string options.catalogExtension),
    ("template_extensions", textsJson options.templateExtensions)]

end Options

end CatalogLint
