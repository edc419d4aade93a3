/-! # The characters of a YAML text

    What a character means in YAML depends on where it stands.  A text is read as a
    list of cells, each a character with its place.  The several ways to end a line
    become one, except for the two separators of Unicode, which stay what they are. -/

namespace CatalogLint.Yaml

/-! ## Kinds of characters -/

/-- The characters that end a line. -/
def isBreak (c : Char) : Bool :=
  c == '\n' || c == '\r' || c == '\x85' || c == '\u2028' || c == '\u2029'

/-- A space or a tab. -/
def isBlank (c : Char) : Bool :=
  c == ' ' || c == '\t'

/-- The characters that a text may be made of. -/
def isAllowed (c : Char) : Bool :=
  c == '\t' || c == '\n' || c == '\r' || (' ' ≤ c && c ≤ '~') || c == '\x85'
    || ('\xa0' ≤ c && c != '\ufffe' && c != '\uffff')

/-- The characters of the names of anchors, tag handles and directives. -/
def isNameChar (c : Char) : Bool :=
  ('0' ≤ c && c ≤ '9') || ('A' ≤ c && c ≤ 'Z') || ('a' ≤ c && c ≤ 'z') || c == '_' || c == '-'

/-! ## Cells -/

/-- A character with its place: its line, its column, and the number of bytes before it. -/
structure Cell where
  char : Char
  line : Nat
  column : Nat
  offset : Nat
  deriving DecidableEq, Repr

namespace Cell

/-- The cell ends a line. -/
def isBreak (cell : Cell) : Bool := Yaml.isBreak cell.char

/-- The cell is a space or a tab. -/
def isBlank (cell : Cell) : Bool := Yaml.isBlank cell.char

/-- The cell is a space or a tab, or ends a line. -/
def isGap (cell : Cell) : Bool := cell.isBlank || cell.isBreak

end Cell

/-- The cells of characters from a place on. -/
def cellsFrom (line column offset : Nat) : List Char → List Cell
  | [] => []
  | '\r' :: '\n' :: rest => ⟨'\n', line, column, offset⟩ :: cellsFrom (line + 1) 0 (offset + 2) rest
  | c :: rest =>
      let next := offset + c.utf8Size
      if isBreak c then
        let kept := if c == '\u2028' || c == '\u2029' then c else '\n'
        ⟨kept, line, column, offset⟩ :: cellsFrom (line + 1) 0 next rest
      else ⟨c, line, column, offset⟩ :: cellsFrom line (column + 1) next rest

/-- The cells of a text, if all of its characters are allowed. -/
def cells? (text : String) : Option (List Cell) :=
  if text.toList.all isAllowed then some (cellsFrom 0 0 0 text.toList) else none

/-! ## The head of the rest -/

/-- The rest of a text starts with a character. -/
def startsWith (c : Char) (rest : List Cell) : Bool :=
  rest.head?.any (·.char == c)

/-- A word cannot go on here: a gap follows, or nothing. -/
def endsWord (rest : List Cell) : Bool :=
  rest.head?.all Cell.isGap

/-- A line starts here with a character three times and the end of a word. -/
def startsMarker (c : Char) : List Cell → Bool
  | first :: second :: third :: rest =>
      first.column == 0 && first.char == c && second.char == c && third.char == c && endsWord rest
  | _ => false

/-- A line starts here that marks where a document starts or ends. -/
def atDocumentMarker (rest : List Cell) : Bool :=
  startsMarker '-' rest || startsMarker '.' rest

/-- The characters of cells. -/
def charsOf (cells : List Cell) : List Char :=
  cells.map Cell.char

/-! ## Folding -/

/-- What a gap between two words of a scalar stands for: itself if it has no line end, a
    space for a single line end, and the others for several. -/
def fold (gap : List Char) : List Char :=
  match gap.filter isBreak with
  | [] => gap
  | ['\n'] => [' ']
  | '\n' :: others => others
  | breaks => breaks

end CatalogLint.Yaml
