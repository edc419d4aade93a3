import CatalogLint.Unicode.CharClass
import CatalogLint.Unicode.GeneralCategory
import CatalogLint.Unicode.Script
import CatalogLint.Unicode.ScriptExtension
import CatalogLint.Unicode.BinaryProperty
import CatalogLint.Unicode.Segmentation
import CatalogLint.Unicode.Word

/-! # Properties by name

    A property query names a class of characters: `Lu`, `Greek`, `Alphabetic`, or
    a property with a value as in `sc=Greek`.  Names are compared loosely: case,
    spaces, hyphens, underscores and a leading `is` do not count. -/

namespace CatalogLint.Unicode.Property

/-- The loose form of a property name or value.  The name `isc` keeps its letters,
    since without the leading `is` it would name another property. -/
def looseName (name : List Char) : String :=
  let lowered := name.map Char.toLower
  let (dropped, body) :=
    match lowered with
    | 'i' :: 's' :: rest => (true, rest)
    | _ => (false, lowered)
  let kept := body.filter fun c => c != ' ' && c != '_' && c != '-' && c.toNat < 128
  if dropped && kept == ['c'] then "isc" else String.ofList kept

/-- The class of a general category given by its loose name. -/
def generalCategory? (name : String) : Option CharClass :=
  let category (name : String) : Option CharClass :=
    (NamedRanges.find? generalCategories name).map .ranges
  let assigned : CharClass :=
    .ranges (generalCategories.flatMap fun entry => CodeRange.read entry.lines)
  match name with
  | "any" => some .all
  | "ascii" => some .ascii
  | "assigned" => some assigned
  | "cn" | "unassigned" => some (.compl assigned)
  | "c" | "other" =>
      some (.union (.compl assigned) (.unions (["cc", "cf", "co"].filterMap category)))
  | _ =>
      match category name with
      | some found => some found
      | none =>
          (categoryGroups.find? (·.1.contains name)).map fun group =>
            .unions (group.2.filterMap category)

/-- The class of a script given by its loose name. -/
def script? (name : String) : Option CharClass :=
  (NamedRanges.find? scripts name).map .ranges

/-- The class of the characters used with a script. -/
def scriptExtension? (name : String) : Option CharClass :=
  match NamedRanges.find? scriptExtensions name with
  | some found => some (.ranges found)
  | none =>
      -- a script that is not listed extends to itself, under any of its names
      match scripts.find? (·.names.contains name) with
      | some entry =>
          match entry.names.findSome? (NamedRanges.find? scriptExtensions) with
          | some found => some (.ranges found)
          | none => some (.ranges (CodeRange.read entry.lines))
      | none => none

/-- The characters assigned up to a version, given by its loose name. -/
def age? (name : String) : Option CharClass :=
  match ages.findIdx? (·.names.contains name) with
  | some index =>
      some (.ranges ((ages.take (index + 1)).flatMap fun entry => CodeRange.read entry.lines))
  | none => none

/-- The class of a single name: a yes-or-no property, else a general category, else
    a script.  Three names that abbreviate other properties are categories here. -/
def named? (name : List Char) : Option CharClass :=
  let loose := looseName name
  let byCategory := (generalCategory? loose).orElse fun _ => script? loose
  if ["cf", "sc", "lc"].contains loose then byCategory
  else
    match NamedRanges.find? binaryProperties loose with
    | some found => some (.ranges found)
    | none => byCategory

/-- The class of a property and a value of it. -/
def valued? (name value : List Char) : Option CharClass :=
  let loose := looseName value
  match looseName name with
  | "gc" | "generalcategory" => generalCategory? loose
  | "sc" | "script" => script? loose
  | "scx" | "scriptextensions" => scriptExtension? loose
  | "age" => age? loose
  | "gcb" | "graphemeclusterbreak" => (NamedRanges.find? graphemeBreaks loose).map .ranges
  | "wb" | "wordbreak" => (NamedRanges.find? wordBreaks loose).map .ranges
  | "sb" | "sentencebreak" => (NamedRanges.find? sentenceBreaks loose).map .ranges
  | _ => none

/-! ## Classes with names of their own -/

/-- Decimal digits of any script. -/
def digit : CharClass := (generalCategory? "nd").getD .empty

/-- White space. -/
def blank : CharClass :=
  .ranges [⟨0x9, 0xD, 1⟩, ⟨0x20, 0x20, 1⟩, ⟨0x85, 0x85, 1⟩, ⟨0xA0, 0xA0, 1⟩,
    ⟨0x1680, 0x1680, 1⟩, ⟨0x2000, 0x200A, 1⟩, ⟨0x2028, 0x2029, 1⟩, ⟨0x202F, 0x202F, 1⟩,
    ⟨0x205F, 0x205F, 1⟩, ⟨0x3000, 0x3000, 1⟩]

/-- Word characters. -/
def word : CharClass :=
  .ranges (⟨0x30, 0x39, 1⟩ :: ⟨0x41, 0x5A, 1⟩ :: ⟨0x5F, 0x5F, 1⟩ :: ⟨0x61, 0x7A, 1⟩
    :: wordRanges.map fun (first, last) => ⟨first, last, 1⟩)

/-- A character with the Alphabetic property. -/
def isAlphabetic (c : Char) : Bool :=
  ((NamedRanges.find? binaryProperties "alphabetic").getD []).any (·.contains c.toNat)

/-- A number character of any kind. -/
def isNumeric (c : Char) : Bool :=
  ((generalCategory? "n").getD .empty).contains c.toNat

end CatalogLint.Unicode.Property
