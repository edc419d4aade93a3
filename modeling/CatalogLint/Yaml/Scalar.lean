/-! # Plain scalars of YAML

    A scalar without quotes is read as a null, a truth value or a number where it looks
    like one, and as a text otherwise.  The rules are those of the core schema, with
    binary numbers added to it. -/

namespace CatalogLint.Yaml

/-- The spellings of null. -/
def isNullWord (text : String) : Bool :=
  ["~", "null", "Null", "NULL"].contains text

/-- The truth value that a word stands for. -/
def flagWord? (text : String) : Option Bool :=
  if ["true", "True", "TRUE"].contains text then some true
  else if ["false", "False", "FALSE"].contains text then some false
  else none

/-! ## Integers -/

/-- The value of a digit in bases up to sixteen. -/
def digitOf? (base : Nat) (c : Char) : Option Nat :=
  let value :=
    if '0' ≤ c ∧ c ≤ '9' then c.toNat - '0'.toNat
    else if 'a' ≤ c ∧ c ≤ 'f' then c.toNat - 'a'.toNat + 10
    else if 'A' ≤ c ∧ c ≤ 'F' then c.toNat - 'A'.toNat + 10
    else base
  if value < base then some value else none

/-- The number that digits of a base write; there must be one. -/
def numberOf? (base : Nat) (digits : List Char) : Option Nat :=
  if digits.isEmpty then none
  else digits.foldlM (fun value c => (digitOf? base c).map (value * base + ·)) 0

/-- The digits write a number below a bound. -/
def writesBelow (base bound : Nat) (digits : List Char) : Bool :=
  (numberOf? base digits).any (· < bound)

/-- The text without one sign at its start. -/
def dropSign (text : List Char) : List Char :=
  match text with
  | '+' :: rest | '-' :: rest => rest
  | _ => text

/-- Digits that start with a zero and are not zero alone are no number. -/
def isPaddedNumber (text : List Char) : Bool :=
  match dropSign text with
  | '0' :: c :: rest => (c :: rest).all Char.isDigit
  | _ => false

/-- A number after the mark of its base, below a bound. -/
def isBasedInteger (bound : Nat) (text : List Char) : Bool :=
  match text with
  | '0' :: 'x' :: digits => writesBelow 16 bound digits
  | '0' :: 'o' :: digits => writesBelow 8 bound digits
  | '0' :: 'b' :: digits => writesBelow 2 bound digits
  | _ => false

/-- So many numbers can be written with 128 bits. -/
def integerCount : Nat := Nat.pow 2 128

/-- An integer of 128 bits, in decimal or after the mark of another base. -/
def isInteger (text : List Char) : Bool :=
  match text with
  | '-' :: rest =>
      isBasedInteger (integerCount / 2 + 1) rest
        || (!isPaddedNumber text && writesBelow 10 (integerCount / 2 + 1) rest)
  | '+' :: rest =>
      isBasedInteger integerCount rest
        || (!isPaddedNumber text && writesBelow 10 integerCount rest)
  | _ =>
      isBasedInteger integerCount text
        || (!isPaddedNumber text && writesBelow 10 integerCount text)

/-! ## Numbers with a point or an exponent -/

/-- The digits of a number with its decimal exponent, which counts from their end. -/
structure Decimal where
  digits : List Char
  exponent : Int
  deriving Repr, DecidableEq

/-- An exponent: a sign or none, and digits. -/
def exponentOf? (text : List Char) : Option Int :=
  match text with
  | '-' :: digits => (numberOf? 10 digits).map fun value => -(value : Int)
  | '+' :: digits => (numberOf? 10 digits).map fun value => (value : Int)
  | digits => (numberOf? 10 digits).map fun value => (value : Int)

/-- A number without a sign: digits with a point among, before or after them, and an
    exponent or none. -/
def decimalOf? (text : List Char) : Option Decimal :=
  let whole := text.takeWhile Char.isDigit
  let rest := text.drop whole.length
  let (fraction, rest) :=
    match rest with
    | '.' :: rest =>
        let fraction := rest.takeWhile Char.isDigit
        (fraction, rest.drop fraction.length)
    | _ => ([], rest)
  let digits := whole ++ fraction
  if digits.isEmpty then none
  else
    match rest with
    | [] => some ⟨digits, -(fraction.length : Int)⟩
    | mark :: rest =>
        if mark == 'e' || mark == 'E' then
          (exponentOf? rest).map fun exponent => ⟨digits, exponent - fraction.length⟩
        else none

/-- The number is too large for a double: it does not lie below the point half way
    between the greatest double and the power of two after it. -/
def Decimal.overflows (decimal : Decimal) : Bool :=
  let digits := decimal.digits.dropWhile (· == '0')
  let places : Int := digits.length + decimal.exponent
  if digits.isEmpty || places < 300 then false
  else if places > 310 then true
  else
    let value := (numberOf? 10 digits).getD 0
    let limit := Nat.pow 2 1024 - Nat.pow 2 970
    if decimal.exponent < 0 then limit * Nat.pow 10 (-decimal.exponent).toNat ≤ value
    else limit ≤ value * Nat.pow 10 decimal.exponent.toNat

/-- A number with a point or an exponent, an infinity, or no number. -/
def isFloat (text : List Char) : Bool :=
  let unsigned :=
    match text with
    | '+' :: rest => rest
    | _ => text
  let words := [".inf", ".Inf", ".INF"]
  if words.contains (String.ofList unsigned) then true
  else if (["-.inf", "-.Inf", "-.INF", ".nan", ".NaN", ".NAN"]).contains (String.ofList text) then
    true
  else
    match text with
    | '+' :: '+' :: _ | '+' :: '-' :: _ => false
    | _ => (decimalOf? (dropSign text)).any (!·.overflows)

/-- The text, read without quotes, is something other than this text. -/
def readsAsOther (text : String) : Bool :=
  let chars := text.toList
  text.isEmpty || isNullWord text || (flagWord? text).isSome || isInteger chars
    || isPaddedNumber chars || isFloat chars

end CatalogLint.Yaml
