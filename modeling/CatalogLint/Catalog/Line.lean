import CatalogLint.Finding
import CatalogLint.Unicode.Blank
import CatalogLint.Text.Sweep

/-! # Lines of a catalog

    A catalog holds one key and its value on each line, `"KEY": "value"`, with a
    comma after it or not, indented by one unit or not.  Lines that hold only a
    brace, and blank lines, are passed over. -/

namespace CatalogLint.Catalog

open Unicode Text

/-- What a line of a catalog turns out to be. -/
inductive LineVerdict where
  | skip
  | malformed
  | pair (key value : String)
  deriving DecidableEq, Repr

/-- What may follow the value: a comma or nothing, then white space. -/
def endsPair : List Char → Bool
  | ',' :: rest => rest.all isBlank
  | rest => rest.all isBlank

/-- A key and a value in double quotes, from the first quote of the key on. -/
def readPair : List Char → Option (List Char × List Char)
  | '"' :: rest =>
      let key := rest.takeWhile (· != '"')
      if key.isEmpty then none
      else
        match rest.drop key.length with
        | '"' :: ':' :: ' ' :: '"' :: rest =>
            let value := rest.takeWhile (· != '"')
            match rest.drop value.length with
            | '"' :: rest => if endsPair rest then some (key, value) else none
            | _ => none
        | _ => none
  | _ => none

/-- A key and a value after one indent unit or none. -/
def readIndentedPair (indent line : List Char) : Option (List Char × List Char) :=
  match (after? indent line).bind readPair with
  | some pair => some pair
  | none => readPair line

/-- The verdict on a line whose terminator has been removed. -/
def verdict (indent line : List Char) : LineVerdict :=
  let trimmed := trim line
  if trimmed = [] ∨ trimmed = ['\x7b'] ∨ trimmed = ['\x7d'] then .skip
  else
    match readIndentedPair indent line with
    | some (key, value) => .pair (String.ofList key) (String.ofList value)
    | none => .malformed

/-- The line without one carriage return at its end. -/
def dropCarriageReturn (line : List Char) : List Char :=
  if line.getLast? = some '\r' then line.dropLast else line

/-- The verdict on a line, which may end with a carriage return. -/
def lineVerdict (indent line : List Char) : LineVerdict :=
  verdict indent (dropCarriageReturn line)

/-- The findings about the shape of a line: white space at its end, and a line that is
    neither a pair nor passed over. -/
def lineFindings (indent line : List Char) : List Finding :=
  let line := dropCarriageReturn line
  (if endsBlank line then
    [.warning .trailingWhitespace "Trailing spaces must be removed."] else [])
  ++ (if verdict indent line = .malformed then
    [.error .malformedLine
      ("Lines must match the expected key/value pattern (\"key\": \"value\"). Line: "
        ++ String.ofList (trim line))] else [])

end CatalogLint.Catalog
