import CatalogLint.Yaml.Cell

/-! # Scalars without quotes

    A plain scalar ends where something else could start: at a mark, at a comment, or
    at a line that is not deep enough.  A block scalar is made of the lines that follow
    its header and are deep enough; a literal one keeps its line ends and a folded one
    joins its lines. -/

namespace CatalogLint.Yaml

/-! ## Plain scalars -/

/-- What a plain scalar has come to: its text, whether a line ended behind it, and what
    follows it and the gap behind it. -/
structure Plain where
  text : List Char
  brokeLine : Bool
  rest : List Cell

/-- The marks that shape a list or a map in brackets. -/
def isFlowMark (c : Char) : Bool :=
  [',', '[', ']', '\x7b', '\x7d'].contains c

/-- The next word belongs to something else, as seen before its first character. -/
def interruptsPlain (inFlow : Bool) (depth : Nat) (cell : Cell) (rest : List Cell) : Bool :=
  (!inFlow && cell.column < depth) || cell.char == '#' || atDocumentMarker (cell :: rest)

/-- The character ends a plain scalar, inside a word as well as before one. -/
def endsPlain (inFlow : Bool) (c : Char) (rest : List Cell) : Bool :=
  (c == ':' && endsWord rest) || (inFlow && isFlowMark c)

/-- A character that must not follow a colon inside a plain scalar in brackets. -/
def refusesColon (c : Char) : Bool :=
  c == '?' || isFlowMark c

/-- The rest of a plain scalar after a gap.  Lines that it goes on in are at least as
    deep as given and have no tab before that depth; in brackets, a colon must not be
    followed by a mark. -/
def readPlain (inFlow : Bool) (depth : Nat) (gap : List Char) : List Cell → Option Plain
  | [] => some ⟨[], gap.any isBreak, []⟩
  | cell :: rest =>
      if cell.isGap then
        if gap.any isBreak && cell.char == '\t' && cell.column < depth then none
        else readPlain inFlow depth (gap ++ [cell.char]) rest
      else if !gap.isEmpty && interruptsPlain inFlow depth cell rest then
        some ⟨[], gap.any isBreak, cell :: rest⟩
      else if inFlow && cell.char == ':' && rest.head?.any (refusesColon ·.char) then none
      else if endsPlain inFlow cell.char rest then some ⟨[], gap.any isBreak, cell :: rest⟩
      else
        (readPlain inFlow depth [] rest).map fun plain =>
          { plain with text := fold gap ++ cell.char :: plain.text }

/-! ## Block scalars -/

/-- What becomes of the line ends after the last line of a block scalar. -/
inductive Ending where
  | strip
  | clip
  | keep
  deriving DecidableEq, Repr

/-- The header of a block scalar: how much deeper than its parent it is, if that is
    said, and how it ends. -/
structure BlockHeader where
  deeper : Option Nat
  ending : Ending
  deriving DecidableEq, Repr

/-- The ending that a character asks for. -/
def endingOf? (c : Char) : Option Ending :=
  match c with
  | '+' => some .keep
  | '-' => some .strip
  | _ => none

/-- The depth that a character asks for; zero is none. -/
def deeperOf? (c : Char) : Option Nat :=
  if '1' ≤ c ∧ c ≤ '9' then some (c.toNat - '0'.toNat) else none

/-- The header after the mark of a block scalar, and what follows it.  It has a sign and
    a digit at most, in either order. -/
def readHeader (rest : List Cell) : BlockHeader × List Cell :=
  match rest with
  | [] => (⟨none, .clip⟩, [])
  | first :: others =>
      match endingOf? first.char, deeperOf? first.char with
      | some ending, _ =>
          match others.head?.bind (deeperOf? ·.char) with
          | some deeper => (⟨some deeper, ending⟩, others.tail)
          | none => (⟨none, ending⟩, others)
      | none, some deeper =>
          match others.head?.bind (endingOf? ·.char) with
          | some ending => (⟨some deeper, ending⟩, others.tail)
          | none => (⟨some deeper, .clip⟩, others)
      | none, none => (⟨none, .clip⟩, rest)

/-- What follows the rest of a line that may hold blanks and a comment and nothing
    else. -/
def endLine? (rest : List Cell) : Option (List Cell) :=
  let rest := rest.dropWhile Cell.isBlank
  let rest := if startsWith '#' rest then rest.dropWhile (!·.isBreak) else rest
  match rest with
  | [] => some []
  | cell :: rest => if cell.isBreak then some rest else none

/-- The depth of the deepest of the empty lines that a block scalar starts with and of
    the line that follows them; there must be no tab in front of that. -/
def deepestStart? (deepest : Nat) : List Cell → Option Nat
  | [] => some deepest
  | cell :: rest =>
      if cell.char == ' ' then deepestStart? deepest rest
      else if cell.char == '\t' then none
      else if cell.isBreak then deepestStart? (max deepest cell.column) rest
      else some (max deepest cell.column)

/-- The lines of a block scalar that have been read: their text without the line ends
    at its end, those line ends, and what follows. -/
structure Lines where
  text : List Char
  lastBreak : Option Char
  emptyLines : List Char
  rest : List Cell

/-- Where the reading of a block scalar is: inside a line, or before one, with the line
    end before that line and the empty lines since. -/
inductive BlockPlace where
  | inLine
  | beforeLine (lastBreak : Option Char) (emptyLines : List Char)

/-- What stands between two lines of a block scalar.  A folded one joins them unless one
    of them starts with a blank. -/
def joint (folded afterBlank beforeBlank : Bool) (lastBreak : Option Char)
    (emptyLines : List Char) : List Char :=
  if folded && lastBreak == some '\n' && !afterBlank && !beforeBlank then
    if emptyLines.isEmpty then [' '] else emptyLines
  else lastBreak.toList ++ emptyLines

/-- The lines of a block scalar at a depth.  The flag says that the line before starts
    with a blank. -/
def readLines (folded : Bool) (depth : Nat) (afterBlank : Bool) (place : BlockPlace) :
    List Cell → Option Lines
  | [] =>
      match place with
      | .inLine => some ⟨[], none, [], []⟩
      | .beforeLine lastBreak emptyLines => some ⟨[], lastBreak, emptyLines, []⟩
  | cell :: rest =>
      match place with
      | .inLine =>
          if cell.isBreak then
            readLines folded depth afterBlank (.beforeLine (some cell.char) []) rest
          else
            (readLines folded depth afterBlank .inLine rest).map fun lines =>
              { lines with text := cell.char :: lines.text }
      | .beforeLine lastBreak emptyLines =>
          if cell.column < depth && cell.char == ' ' then
            readLines folded depth afterBlank place rest
          else if cell.column < depth && cell.char == '\t' then none
          else if cell.isBreak then
            readLines folded depth afterBlank (.beforeLine lastBreak (emptyLines ++ [cell.char]))
              rest
          else if cell.column = depth then
            (readLines folded depth cell.isBlank .inLine rest).map fun lines =>
              { lines with
                text :=
                  joint folded afterBlank cell.isBlank lastBreak emptyLines
                    ++ cell.char :: lines.text }
          else some ⟨[], lastBreak, emptyLines, cell :: rest⟩

/-- The text of a block scalar after its mark, and what follows it.  The depth is one
    more than that of the parent at least, and one at least. -/
def readBlock (folded : Bool) (parent : Option Nat) (rest : List Cell) :
    Option (List Char × List Cell) := do
  let (header, rest) := readHeader rest
  let rest ← endLine? rest
  let depth ←
    match header.deeper with
    | some deeper => some (parent.getD 0 + deeper)
    | none => (deepestStart? 0 rest).map fun deepest => max deepest (parent.elim 1 (· + 1))
  let lines ← readLines folded depth false (.beforeLine none []) rest
  let text :=
    match header.ending with
    | .strip => lines.text
    | .clip => lines.text ++ lines.lastBreak.toList
    | .keep => lines.text ++ lines.lastBreak.toList ++ lines.emptyLines
  return (text, lines.rest)

end CatalogLint.Yaml
