import CatalogLint.Yaml.Quoted
import CatalogLint.Yaml.Unquoted

/-! # Anchors, tags and directives

    A node may be given a name to refer to it by, its anchor, and a tag that says what
    it is.  A tag is written with a handle that stands for the start of it; directives
    at the head of a document say what handles stand for. -/

namespace CatalogLint.Yaml

/-- A tag as it is written.  The empty handle stands for nothing. -/
structure Tag where
  handle : String
  suffix : String
  deriving DecidableEq, Repr

/-! ## Names -/

/-- The name at the start of a text, and what follows it. -/
def readName (rest : List Cell) : List Char × List Cell :=
  let name := rest.takeWhile (isNameChar ·.char)
  (charsOf name, rest.drop name.length)

/-- The name after the mark of an anchor or an alias, and what follows it. -/
def readAnchor (rest : List Cell) : Option (String × List Cell) :=
  let (name, rest) := readName rest
  let mayFollow := ['?', ':', ',', ']', '\x7d', '%', '@', '\x60']
  if name.isEmpty then none
  else if endsWord rest || rest.head?.any (mayFollow.contains ·.char) then
    some (String.ofList name, rest)
  else none

/-! ## Tags -/

/-- The characters that a tag may hold; between angle brackets there are more. -/
def isTagChar (bracketed : Bool) (c : Char) : Bool :=
  isNameChar c
    || [';', '/', '?', ':', '@', '&', '=', '+', '$', '.', '!', '~', '*', '\'', '(', ')'].contains c
    || (bracketed && [',', '[', ']'].contains c)

/-- The number of bytes of a character whose first byte is given. -/
def bytesFrom? (first : Nat) : Option Nat :=
  if first < 0x80 then some 1
  else if 0xC0 ≤ first ∧ first < 0xE0 then some 2
  else if 0xE0 ≤ first ∧ first < 0xF0 then some 3
  else if 0xF0 ≤ first ∧ first < 0xF8 then some 4
  else none

/-- The rest of a tag, and what follows it.  A percent sign and two hexadecimal digits
    write a byte, which is kept as the character of that number; so many bytes have to
    follow before the character that was begun is complete. -/
def readTagChars (bracketed : Bool) (due : Nat) : List Cell → Option (List Char × List Cell)
  | [] => if due = 0 then some ([], []) else none
  | cell :: rest =>
      if cell.char == '%' then
        match rest with
        | high :: low :: rest => do
            let high ← hexDigit? high.char
            let low ← hexDigit? low.char
            let byte := high * 16 + low
            let due ←
              if due = 0 then (bytesFrom? byte).map (· - 1)
              else if 0x80 ≤ byte ∧ byte < 0xC0 then some (due - 1)
              else none
            let (chars, rest) ← readTagChars bracketed due rest
            return (Char.ofNat byte :: chars, rest)
        | _ => none
      else if due ≠ 0 then none
      else if isTagChar bracketed cell.char then
        (readTagChars bracketed 0 rest).map fun (chars, rest) => (cell.char :: chars, rest)
      else some ([], cell :: rest)

/-- A handle: an exclamation mark, or a name between two of them.  Without the second
    one it is the start of something else, and the flag says so. -/
def readHandle (rest : List Cell) : Option (List Char × Bool × List Cell) :=
  match rest with
  | [] => none
  | first :: rest =>
      if first.char != '!' then none
      else
        let (name, rest) := readName rest
        if startsWith '!' rest then some ('!' :: name ++ ['!'], true, rest.tail)
        else some ('!' :: name, false, rest)

/-- A tag in any of its forms, and what follows it. -/
def readTagForm (cells : List Cell) : Option (Tag × List Cell) :=
  if startsWith '<' cells.tail then do
    let (suffix, rest) ← readTagChars true 0 (cells.drop 2)
    if suffix.isEmpty || !startsWith '>' rest then none
    else return (⟨"", String.ofList suffix⟩, rest.tail)
  else do
    let (handle, closed, rest) ← readHandle cells
    let (suffix, rest) ← readTagChars false 0 rest
    if closed then
      if suffix.isEmpty then none
      else return (⟨String.ofList handle, String.ofList suffix⟩, rest)
    else
      let suffix := handle.tail ++ suffix
      if suffix.isEmpty then return (⟨"", "!"⟩, rest)
      else return (⟨"!", String.ofList suffix⟩, rest)

/-- A tag, and what follows it: the end of a word, or a comma in brackets. -/
def readTag (inFlow : Bool) (cells : List Cell) : Option (Tag × List Cell) := do
  let (tag, rest) ← readTagForm cells
  if endsWord rest || (inFlow && startsWith ',' rest) then return (tag, rest) else none

/-! ## Directives -/

/-- A line at the head of a document: the version of YAML, or what a handle stands
    for. -/
inductive Directive where
  | version
  | handle (handle start : String)
  deriving DecidableEq, Repr

/-- A number of at most nine digits, and what follows it. -/
def readVersionNumber (rest : List Cell) : Option (Nat × List Cell) :=
  let digits := rest.takeWhile (·.char.isDigit)
  if digits.isEmpty || 9 < digits.length then none
  else
    some ((charsOf digits).foldl (fun value c => value * 10 + (c.toNat - '0'.toNat)) 0,
      rest.drop digits.length)

/-- The version that a directive names, which has to be 1.1 or 1.2. -/
def readVersion (rest : List Cell) : Option (Directive × List Cell) := do
  let (major, rest) ← readVersionNumber (rest.dropWhile Cell.isBlank)
  if !startsWith '.' rest then none
  else
    let (minor, rest) ← readVersionNumber rest.tail
    if major = 1 ∧ (minor = 1 ∨ minor = 2) then return (.version, rest) else none

/-- The handle that a directive explains, with what it stands for. -/
def readHandleDirective (rest : List Cell) : Option (Directive × List Cell) := do
  let (handle, closed, rest) ← readHandle (rest.dropWhile Cell.isBlank)
  if !closed && handle != ['!'] then none
  else if !rest.head?.any Cell.isBlank then none
  else
    let (start, rest) ← readTagChars true 0 (rest.dropWhile Cell.isBlank)
    if start.isEmpty || !endsWord rest then none
    else return (.handle (String.ofList handle) (String.ofList start), rest)

/-- A directive after its percent sign, and what follows its line. -/
def readDirective (rest : List Cell) : Option (Directive × List Cell) := do
  let (name, rest) := readName rest
  if !endsWord rest then none
  else
    let (directive, rest) ←
      if name = "YAML".toList then readVersion rest
      else if name = "TAG".toList then readHandleDirective rest
      else none
    return (directive, ← endLine? rest)

end CatalogLint.Yaml
