import CatalogLint.Json.Value
import CatalogLint.Text.Sweep

/-! # Reading JSON

    `Json.read?` gives the value of a text that is JSON and nothing else, with white
    space around it at most. -/

namespace CatalogLint.Json

open Text

/-! ## Strings -/

/-- White space between the parts of a text. -/
def isSpace (c : Char) : Bool :=
  c == ' ' || c == '\t' || c == '\n' || c == '\r'

/-- The text after the white space at its start. -/
def skipSpace (text : List Char) : List Char :=
  text.dropWhile isSpace

/-- The value of a hexadecimal digit. -/
def hexValue? (c : Char) : Option Nat :=
  if '0' ≤ c ∧ c ≤ '9' then some (c.toNat - '0'.toNat)
  else if 'a' ≤ c ∧ c ≤ 'f' then some (c.toNat - 'a'.toNat + 10)
  else if 'A' ≤ c ∧ c ≤ 'F' then some (c.toNat - 'A'.toNat + 10)
  else none

/-- The number that four hexadecimal digits write. -/
def hexUnit? (a b c d : Char) : Option Nat := do
  let a ← hexValue? a
  let b ← hexValue? b
  let c ← hexValue? c
  let d ← hexValue? d
  return ((a * 16 + b) * 16 + c) * 16 + d

/-- The character that a single letter after a backslash stands for. -/
def shortEscape? (c : Char) : Option Char :=
  match c with
  | '"' => some '"'
  | '\\' => some '\\'
  | '/' => some '/'
  | 'b' => some '\x08'
  | 'f' => some '\x0c'
  | 'n' => some '\n'
  | 'r' => some '\r'
  | 't' => some '\t'
  | _ => none

/-- A piece of a string: a character, or a 16-bit unit written in hexadecimal. -/
inductive StringPart where
  | char (c : Char)
  | unit (value : Nat)
  deriving DecidableEq, Repr

/-- The pieces of a string after its opening quote, and the text after its closing
    one. -/
def readParts : List Char → Option (List StringPart × List Char)
  | [] => none
  | '"' :: rest => some ([], rest)
  | '\\' :: 'u' :: a :: b :: c :: d :: rest =>
      match hexUnit? a b c d with
      | some unit => (readParts rest).map fun (parts, rest) => (.unit unit :: parts, rest)
      | none => none
  | '\\' :: c :: rest =>
      match shortEscape? c with
      | some c => (readParts rest).map fun (parts, rest) => (.char c :: parts, rest)
      | none => none
  | c :: rest =>
      if c.toNat < 0x20 || c == '\\' then none
      else (readParts rest).map fun (parts, rest) => (.char c :: parts, rest)

/-- The unit is the first half of a surrogate pair. -/
def isHighHalf (unit : Nat) : Bool := 0xD800 ≤ unit && unit ≤ 0xDBFF

/-- The unit is the second half of a surrogate pair. -/
def isLowHalf (unit : Nat) : Bool := 0xDC00 ≤ unit && unit ≤ 0xDFFF

/-- The characters that pieces stand for; a half without its other half stands for
    none. -/
def joinParts : List StringPart → Option (List Char)
  | [] => some []
  | .char c :: rest => (joinParts rest).map (c :: ·)
  | .unit high :: .unit low :: rest =>
      if isHighHalf high then
        if isLowHalf low then
          (joinParts rest).map
            (Char.ofNat (0x10000 + (high - 0xD800) * 0x400 + (low - 0xDC00)) :: ·)
        else none
      else if isLowHalf high then none
      else (joinParts (.unit low :: rest)).map (Char.ofNat high :: ·)
  | .unit value :: rest =>
      if isHighHalf value || isLowHalf value then none
      else (joinParts rest).map (Char.ofNat value :: ·)

/-- The characters of a string after its opening quote, if it stands for some, and the
    text after its closing quote. -/
def readChars (text : List Char) : Option (Option (List Char) × List Char) :=
  (readParts text).map fun (parts, rest) => (joinParts parts, rest)

/-! ## Numbers -/

/-- The digits at the start of a text, and the text after them; there must be one. -/
def readDigits (text : List Char) : Option (List Char × List Char) :=
  let digits := text.takeWhile Char.isDigit
  if digits.isEmpty then none else some (digits, text.drop digits.length)

/-- The digits before the point: a single zero, or digits that do not start with one. -/
def readInteger : List Char → Option (List Char × List Char)
  | '0' :: rest => some (['0'], rest)
  | text => readDigits text

/-- The point and the digits after it, if there are any. -/
def readFraction : List Char → Option (List Char × List Char)
  | '.' :: rest => (readDigits rest).map fun (digits, rest) => ('.' :: digits, rest)
  | text => some ([], text)

/-- The exponent, if there is one. -/
def readExponent : List Char → Option (List Char × List Char)
  | mark :: rest =>
      if mark == 'e' || mark == 'E' then
        match rest with
        | '+' :: rest => (readDigits rest).map fun (digits, rest) => (mark :: '+' :: digits, rest)
        | '-' :: rest => (readDigits rest).map fun (digits, rest) => (mark :: '-' :: digits, rest)
        | _ => (readDigits rest).map fun (digits, rest) => (mark :: digits, rest)
      else some ([], mark :: rest)
  | [] => some ([], [])

/-- The number that decimal digits write. -/
def decimalValue (digits : List Char) : Nat :=
  digits.foldl (fun value c => value * 10 + (c.toNat - '0'.toNat)) 0

/-- A number without its sign. -/
def readUnsigned (sign text : List Char) : Option (Json × List Char) := do
  let (whole, rest) ← readInteger text
  let (fraction, rest) ← readFraction rest
  let (exponent, rest) ← readExponent rest
  if sign.isEmpty && fraction.isEmpty && exponent.isEmpty then
    return (.natural (decimalValue whole), rest)
  else return (.number (String.ofList (sign ++ whole ++ fraction ++ exponent)), rest)

/-- A number. -/
def readNumber : List Char → Option (Json × List Char)
  | '-' :: rest => readUnsigned ['-'] rest
  | text => readUnsigned [] text

/-! ## Values -/

/-- An object of members whose names may be missing; it is broken if one is. -/
def objectOf (members : List (Option (List Char) × Json)) : Json :=
  if members.all (·.1.isSome) then
    .object (members.map fun (name, value) => (String.ofList (name.getD []), value))
  else .broken

mutual

/-- The value at the start of a text, and the text after it. -/
def readValue : Nat → List Char → Option (Json × List Char)
  | 0, _ => none
  | fuel + 1, text =>
      match text with
      | '\x7b' :: rest =>
          match skipSpace rest with
          | '\x7d' :: rest => some (.object [], rest)
          | rest => (readMembers fuel rest).map fun (members, rest) => (objectOf members, rest)
      | '[' :: rest =>
          match skipSpace rest with
          | ']' :: rest => some (.array [], rest)
          | rest => (readItems fuel rest).map fun (items, rest) => (.array items, rest)
      | '"' :: rest =>
          match readChars rest with
          | some (some chars, rest) => some (.string (String.ofList chars), rest)
          | some (none, rest) => some (.broken, rest)
          | none => none
      | 't' :: 'r' :: 'u' :: 'e' :: rest => some (.bool true, rest)
      | 'f' :: 'a' :: 'l' :: 's' :: 'e' :: rest => some (.bool false, rest)
      | 'n' :: 'u' :: 'l' :: 'l' :: rest => some (.null, rest)
      | _ => readNumber text

/-- The items of an array up to its closing bracket. -/
def readItems : Nat → List Char → Option (List Json × List Char)
  | 0, _ => none
  | fuel + 1, text =>
      match readValue fuel text with
      | none => none
      | some (item, rest) =>
          match skipSpace rest with
          | ']' :: rest => some ([item], rest)
          | ',' :: rest =>
              (readItems fuel (skipSpace rest)).map fun (items, rest) => (item :: items, rest)
          | _ => none

/-- The members of an object up to its closing brace. -/
def readMembers : Nat → List Char → Option (List (Option (List Char) × Json) × List Char)
  | 0, _ => none
  | fuel + 1, text =>
      match text with
      | '"' :: rest =>
          match readChars rest with
          | none => none
          | some (name, rest) =>
              match skipSpace rest with
              | ':' :: rest =>
                  match readValue fuel (skipSpace rest) with
                  | none => none
                  | some (value, rest) =>
                      match skipSpace rest with
                      | '\x7d' :: rest => some ([(name, value)], rest)
                      | ',' :: rest =>
                          (readMembers fuel (skipSpace rest)).map fun (members, rest) =>
                            ((name, value) :: members, rest)
                      | _ => none
              | _ => none
      | _ => none

end

/-- The value of a text that is JSON and nothing else. -/
def read? (text : String) : Option Json :=
  let chars := text.toList
  match readValue (chars.length + 1) (skipSpace chars) with
  | some (value, rest) => if (skipSpace rest).isEmpty then some value else none
  | none => none

end CatalogLint.Json
