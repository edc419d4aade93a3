import CatalogLint.Json.Value

/-! # Writing JSON

    Values are written with one item or member on each line, two spaces deeper than
    the brackets around it; an array or object without any takes no lines of its own.
    Of the characters of a string only those that have to be are escaped. -/

namespace CatalogLint.Json

/-- A hexadecimal digit, in lower case. -/
def hexDigit (value : Nat) : Char :=
  "0123456789abcdef".toList.getD value '0'

/-- A character as it is written in a string. -/
def escapeChar (c : Char) : List Char :=
  if c = '"' then ['\\', '"']
  else if c = '\\' then ['\\', '\\']
  else if c = '\n' then ['\\', 'n']
  else if c = '\r' then ['\\', 'r']
  else if c = '\t' then ['\\', 't']
  else if c = '\x08' then ['\\', 'b']
  else if c = '\x0c' then ['\\', 'f']
  else if c.toNat < 0x20 then
    ['\\', 'u', '0', '0', hexDigit (c.toNat / 16), hexDigit (c.toNat % 16)]
  else [c]

/-- A string in quotes. -/
def writeString (text : String) : List Char :=
  '"' :: (text.toList.flatMap escapeChar ++ ['"'])

/-- The start of a line at a depth. -/
def newLine (depth : Nat) : List Char :=
  '\n' :: List.replicate (2 * depth) ' '

mutual

/-- A value as it is written at a depth. -/
def write (depth : Nat) : Json → List Char
  | .null | .broken => ['n', 'u', 'l', 'l']
  | .bool true => ['t', 'r', 'u', 'e']
  | .bool false => ['f', 'a', 'l', 's', 'e']
  | .natural value => (toString value).toList
  | .number written => written.toList
  | .string text => writeString text
  | .array [] => ['[', ']']
  | .array (item :: items) =>
      '[' :: (newLine (depth + 1) ++ write (depth + 1) item ++ writeItems (depth + 1) items
        ++ newLine depth ++ [']'])
  | .object [] => ['\x7b', '\x7d']
  | .object ((name, value) :: members) =>
      '\x7b' :: (newLine (depth + 1) ++ writeString name ++ [':', ' '] ++ write (depth + 1) value
        ++ writeMembers (depth + 1) members ++ newLine depth ++ ['\x7d'])

/-- The items of an array after its first one. -/
def writeItems (depth : Nat) : List Json → List Char
  | [] => []
  | item :: items => ',' :: (newLine depth ++ write depth item ++ writeItems depth items)

/-- The members of an object after its first one. -/
def writeMembers (depth : Nat) : List (String × Json) → List Char
  | [] => []
  | (name, value) :: members =>
      ',' :: (newLine depth ++ writeString name ++ [':', ' '] ++ write depth value
        ++ writeMembers depth members)

end

/-- The text of a value. -/
def pretty (value : Json) : String :=
  String.ofList (write 0 value)

end CatalogLint.Json
