import CatalogLint.Catalog.KeyOrder
import CatalogLint.Catalog.Line
import CatalogLint.KeyStore
import CatalogLint.Markup
import CatalogLint.Options
import CatalogLint.Unicode.Word

/-! # The rules of a catalog

    A catalog is checked line by line.  What the rules need to know of the lines
    before is the keys met so far, listed and as a set, and the value that each has;
    `Progress` holds all three.  Each rule is a definition of its own, and a pair of a key
    and a value gives the findings of the rules one after the other. -/

namespace CatalogLint.Catalog

open Unicode

/-- What the rules depend on: the options, and the patterns of the language. -/
structure Rules where
  options : Options
  forbidden : List CompiledPattern

/-- The keys met so far, in the order of their first pairs and as the set in which a repeated
    key is looked up, and the values read so far, the latest first. -/
structure Progress where
  keys : KeyStore := .empty
  values : List (String × String) := []

/-! ## One pair -/

/-- Keys are made of letters, digits and underscores of ASCII. -/
def charsetFindings (key : String) : List Finding :=
  if !key.isEmpty && key.toList.all isAsciiWord then []
  else
    [.error .keyCharset
      ("i18n keys must only contain letters, numbers and underscores. Key: " ++ key)]

/-- Keys start with one of the known prefixes, if that is asked for. -/
def prefixFindings (options : Options) (key : String) : List Finding :=
  if options.enforceKeyPrefixes
      && !options.keyPrefixes.any fun start => start.toList.isPrefixOf key.toList then
    [.error .keyPrefix
      ("i18n keys must start with one of: " ++ ", ".intercalate options.keyPrefixes
        ++ ". Key: " ++ key)]
  else []

/-- Values have no white space at either end. -/
def trimFindings (key value : String) : List Finding :=
  if trim value.toList = value.toList then []
  else [.warning .untrimmedValue ("Values must not start or end with white spaces. Key: " ++ key)]

/-- Values are not empty, unless they may be. -/
def emptyFindings (options : Options) (key value : String) : List Finding :=
  if value.isEmpty && !options.ignoreEmptyValues then
    [.error .emptyValue ("Empty values are not allowed. Key: " ++ key)]
  else []

/-- A key comes once. -/
def duplicateFindings (progress : Progress) (key : String) : List Finding :=
  if progress.keys.contains key then [.error .duplicateKey ("Duplicate key: " ++ key)] else []

/-- A new key does not sort before the latest new key, unless the order is free. -/
def orderFindings (options : Options) (progress : Progress) (key : String) : List Finding :=
  if progress.keys.contains key || options.ignoreOrder then []
  else
    match progress.keys.ordered.getLast? with
    | some latest =>
        if compareKeys key latest = .lt then
          [.warning .keyOrder
            ("i18n keys must be sorted alphabetically. Key " ++ key ++ " breaks this rule.")]
        else []
    | none => []

/-- No forbidden pattern occurs in a value. -/
def forbiddenFindings (forbidden : List CompiledPattern) (value : String) : List Finding :=
  (forbidden.filter (·.expr.occursIn value)).map fun pattern =>
    .warning .forbiddenPattern pattern.message

/-- The tags of a value are balanced. -/
def balanceFindings (key value : String) : List Finding :=
  (Markup.checkBalance value).map fun
    | .unclosed tag =>
        .error .unclosedTag
          ("A HTML tag is not closed correctly. Tag: " ++ tag ++ ". Key: " ++ key)
    | .unopened tag =>
        .error .unopenedTag ("A HTML tag has no opening match. Tag: " ++ tag ++ ". Key: " ++ key)

/-- The findings about a key and its value, in the order of the rules. -/
def pairFindings (rules : Rules) (progress : Progress) (key value : String) : List Finding :=
  charsetFindings key
    ++ prefixFindings rules.options key
    ++ trimFindings key value
    ++ emptyFindings rules.options key value
    ++ duplicateFindings progress key
    ++ orderFindings rules.options progress key
    ++ forbiddenFindings rules.forbidden value
    ++ balanceFindings key value

/-! ## All lines -/

namespace Progress

/-- What is known after one more pair. -/
def record (progress : Progress) (key value : String) : Progress where
  keys := progress.keys.insert key
  values := (key, value) :: progress.values

/-- What is known after one more line. -/
def afterLine (progress : Progress) (verdict : LineVerdict) : Progress :=
  match verdict with
  | .pair key value => progress.record key value
  | _ => progress

end Progress

/-- The findings about one line, at its number. -/
def findingsAt (rules : Rules) (progress : Progress) (number : Nat) (line : List Char) :
    List Finding :=
  let indent := rules.options.indentUnit.toList
  let pairs :=
    match lineVerdict indent line with
    | .pair key value => pairFindings rules progress key value
    | _ => []
  (lineFindings indent line ++ pairs).map (·.atLine number)

/-- The findings about lines, numbered from the given number on, and what is known
    after them. -/
def checkLines (rules : Rules) (progress : Progress) (number : Nat) :
    List (List Char) → List Finding × Progress
  | [] => ([], progress)
  | line :: rest =>
      let next := progress.afterLine (lineVerdict rules.options.indentUnit.toList line)
      let (findings, final) := checkLines rules next (number + 1) rest
      (findingsAt rules progress number line ++ findings, final)

/-- What the check of a catalog gives: the findings in line order, the keys by first
    occurrence, and the values, the latest first. -/
structure Checked where
  findings : List Finding
  orderedKeys : List String
  values : List (String × String)
  deriving DecidableEq, Repr

namespace Checked

/-- Some finding is an error. -/
def hasError (checked : Checked) : Bool :=
  checked.findings.any (·.isError)

/-- Some finding is a warning. -/
def hasWarning (checked : Checked) : Bool :=
  checked.findings.any (·.isWarning)

/-- The value of a key, from its last pair. -/
def value? (checked : Checked) (key : String) : Option String :=
  checked.values.lookup key

end Checked

/-- Checks the text of a catalog by the given rules. -/
def checkText (rules : Rules) (content : String) : Checked :=
  let (findings, progress) := checkLines rules {} 1 (content.toList.splitOn '\n')
  { findings, orderedKeys := progress.keys.ordered, values := progress.values }

/-- The patterns of a language, among all that are ready for matching. -/
def forbiddenFor (compiled : List (String × List CompiledPattern)) (language : String) :
    List CompiledPattern :=
  (compiled.lookup language).getD []

/-- Checks the text of the catalog of a language. -/
def check (options : Options) (compiled : List (String × List CompiledPattern))
    (content language : String) : Checked :=
  checkText ⟨options, forbiddenFor compiled language⟩ content

/-! ## One record for many checks -/

/-- Goes on with one more line, whose findings go behind those of a record. -/
def recordLine (rules : Rules) (state : Array Finding × Progress) (line : List Char × Nat) :
    Array Finding × Progress :=
  (state.1 ++ findingsAt rules state.2 line.2 line.1,
    state.2.afterLine (lineVerdict rules.options.indentUnit.toList line.1))

/-- Puts the findings about a text behind those of a record, line by line.  What the check
    gives looks at the findings that it brings; those before them do not count. -/
def recordText (rules : Rules) (content : String) (record : Array Finding) :
    Checked × Array Finding :=
  let lines := (content.toList.splitOn '\n').zipIdx 1
  let (extended, progress) := lines.foldl (recordLine rules) (record, {})
  ({  findings := extended.toList.drop record.size
      orderedKeys := progress.keys.ordered
      values := progress.values }, extended)

/-- Checks the text of the catalog of a language, and puts the findings behind those of a
    record. -/
def recordCheck (options : Options) (compiled : List (String × List CompiledPattern))
    (content language : String) (record : Array Finding) : Checked × Array Finding :=
  recordText ⟨options, forbiddenFor compiled language⟩ content record

end CatalogLint.Catalog
