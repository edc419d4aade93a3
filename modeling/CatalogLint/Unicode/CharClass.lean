import CatalogLint.Unicode.Ranges
import CatalogLint.Unicode.CaseMap

/-! # Character classes

    A character class is built from ranges by the Boolean operations and by
    closing a class under a change of case.  `CharClass.contains` is its meaning:
    each constructor is read off as the operation on sets that it names. -/

namespace CatalogLint.Unicode

/-- A set of code points. -/
inductive CharClass where
  | ranges (items : List CodeRange)
  | union (left right : CharClass)
  | inter (left right : CharClass)
  | diff (left right : CharClass)
  | symmDiff (left right : CharClass)
  | compl (inner : CharClass)
  | anyCase (inner : CharClass)
  deriving Repr

namespace CharClass

/-- Membership of a code point. -/
def contains : CharClass → Nat → Bool
  | .ranges items, code => CodeRange.covers items code
  | .union left right, code => left.contains code || right.contains code
  | .inter left right, code => left.contains code && right.contains code
  | .diff left right, code => left.contains code && !right.contains code
  | .symmDiff left right, code => left.contains code != right.contains code
  | .compl inner, code => !inner.contains code
  | .anyCase inner, code => (caseVariants code).any inner.contains

/-- The class without members. -/
def empty : CharClass := .ranges []

/-- The class of one run of code points. -/
def run (first last : Nat) : CharClass := .ranges [⟨first, last, 1⟩]

/-- The class of one character. -/
def single (c : Char) : CharClass := run c.toNat c.toNat

/-- Every code point. -/
def all : CharClass := run 0 0x10FFFF

/-- The code points of ASCII. -/
def ascii : CharClass := run 0 0x7F

/-- The union of a list of classes. -/
def unions : List CharClass → CharClass
  | [] => empty
  | [only] => only
  | first :: rest => .union first (unions rest)

/-- How many ranges the class is written with, a measure of its size. -/
def rangeCount : CharClass → Nat
  | .ranges items => items.length
  | .union left right | .inter left right | .diff left right | .symmDiff left right =>
      left.rangeCount + right.rangeCount
  | .compl inner => inner.rangeCount + 1
  | .anyCase inner => inner.rangeCount

end CharClass

end CatalogLint.Unicode
