/-! # Ranges of code points

    Properties of characters are kept as short texts of hexadecimal ranges:
    `41-5A` is a run, `100-12E/2` every second code point of a run, `AA` a single
    one.  `CodeRange.read` turns such a text into ranges, and `CodeRange.covers`
    says which code points a list of ranges holds. -/

namespace CatalogLint.Unicode

/-- The code points `first`, `first + step`, … up to `last`. -/
structure CodeRange where
  first : Nat
  last : Nat
  step : Nat
  deriving Repr, DecidableEq

namespace CodeRange

/-- The code point lies in the range, a whole number of steps from its start. -/
def contains (range : CodeRange) (code : Nat) : Bool :=
  range.first ≤ code && code ≤ range.last && (code - range.first) % range.step == 0

/-- Some range of the list holds the code point. -/
def covers (ranges : List CodeRange) (code : Nat) : Bool :=
  ranges.any (·.contains code)

/-- The value of a hexadecimal digit; any other character counts as zero. -/
def digitValue (c : Char) : Nat :=
  if '0' ≤ c ∧ c ≤ '9' then c.toNat - '0'.toNat
  else if 'A' ≤ c ∧ c ≤ 'F' then c.toNat - 'A'.toNat + 10
  else if 'a' ≤ c ∧ c ≤ 'f' then c.toNat - 'a'.toNat + 10
  else 0

/-- The number written by hexadecimal digits. -/
def number (digits : String) : Nat :=
  digits.toList.foldl (fun value c => value * 16 + digitValue c) 0

/-- One written range: `first`, `first-last` or `first-last/step`. -/
def readItem (text : String) : CodeRange :=
  match text.splitOn "-" with
  | [first, tail] =>
      match tail.splitOn "/" with
      | [last, step] => ⟨number first, number last, number step⟩
      | _ => ⟨number first, number tail, 1⟩
  | _ => ⟨number text, number text, 1⟩

/-- The ranges written in lines of items that are separated by single spaces. -/
def read (lines : List String) : List CodeRange :=
  lines.flatMap fun line => (line.splitOn " ").map readItem

end CodeRange

/-- A set of code points with the names it goes by, written as lines of ranges. -/
structure NamedRanges where
  names : List String
  lines : List String
  deriving Repr

namespace NamedRanges

/-- The ranges of the set that goes by a name. -/
def find? (table : List NamedRanges) (name : String) : Option (List CodeRange) :=
  (table.find? (·.names.contains name)).map fun entry => CodeRange.read entry.lines

end NamedRanges

end CatalogLint.Unicode
