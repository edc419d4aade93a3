import CatalogLint.Yaml.Tag

/-! # Tokens

    The tokens of a YAML text are its marks and scalars, and the places where blocks
    open and close, which follow from the columns.  That a scalar is the name of a
    member shows only at the colon behind it; the tokens for that are then put in front
    of it, where it started. -/

namespace CatalogLint.Yaml

/-! ## Tokens -/

/-- How a scalar is written, as far as it matters to its meaning. -/
inductive ScalarStyle where
  | plain
  | literal
  | other
  deriving DecidableEq, Repr

/-- A piece of a YAML text. -/
inductive Token where
  | directive (directive : Directive)
  | documentStart
  | documentEnd
  /-- The columns open a block of items. -/
  | openItems
  /-- The columns open a block of members. -/
  | openMembers
  /-- The columns close a block. -/
  | closeBlock
  | openBracket
  | closeBracket
  | openBrace
  | closeBrace
  | dash
  | comma
  /-- The name of a member follows. -/
  | name
  /-- The value of a member follows. -/
  | value
  | alias (name : String)
  | anchor (name : String)
  | tag (tag : Tag)
  | scalar (text : String) (style : ScalarStyle)
  deriving DecidableEq, Repr

/-! ## The layout at a place -/

/-- A place where the name of a member may have started: its cell, and the number of
    tokens before it.  A name is needed there if a member of the current block has to
    start at its column. -/
structure NameStart where
  cell : Cell
  index : Nat
  needed : Bool
  deriving DecidableEq, Repr

namespace NameStart

/-- The place is too far behind for a name: on an earlier line, or more than 1024 bytes
    away. -/
def isStale (start : NameStart) (here : Cell) : Bool :=
  start.cell.line < here.line || start.cell.offset + 1024 < here.offset

end NameStart

/-- What is known where the reading is: the tokens so far, the columns of the open
    blocks, innermost first, where a name may have started, here and in each of the
    brackets around, and whether one may start now. -/
structure Layout where
  tokens : Array Token := #[]
  columns : List Nat := []
  start : Option NameStart := none
  outer : List (Option NameStart) := []
  nameAllowed : Bool := true

namespace Layout

/-- The place is inside brackets, where columns do not matter. -/
def inFlow (layout : Layout) : Bool :=
  !layout.outer.isEmpty

/-- The layout with a token added. -/
def push (layout : Layout) (token : Token) : Layout :=
  { layout with tokens := layout.tokens.push token }

/-- The layout with one more token and a word on whether a name may start behind it. -/
def pushAllowing (layout : Layout) (nameAllowed : Bool) (token : Token) : Layout :=
  { layout.push token with nameAllowed }

/-- The layout with every block closed whose column meets a condition, down to the first
    one that does not. -/
def closeWhile (layout : Layout) (condition : Nat → Bool) : Layout :=
  if layout.inFlow then layout
  else
    let closed := layout.columns.takeWhile condition
    { layout with
      tokens := layout.tokens ++ (closed.map fun _ => Token.closeBlock)
      columns := layout.columns.drop closed.length }

/-- The layout with a block opened at a column that is deeper than the current one; the
    token goes to the given place among the others. -/
def openAt (layout : Layout) (column index : Nat) (token : Token) : Layout :=
  if layout.inFlow || layout.columns.head?.any (column ≤ ·) then layout
  else
    { layout with
      tokens := layout.tokens.insertIdxIfInBounds index token
      columns := column :: layout.columns }

/-- The layout once no name can start at the place that was kept; a name that is needed
    there is missing. -/
def dropStart (layout : Layout) : Option Layout :=
  if layout.start.any (·.needed) then none else some { layout with start := none }

/-- The layout with this place kept as one where a name may start. -/
def keepStart (layout : Layout) (here : Cell) : Option Layout :=
  if layout.nameAllowed then
    let needed := !layout.inFlow && layout.columns.head? == some here.column
    layout.dropStart.map fun layout =>
      { layout with start := some ⟨here, layout.tokens.size, needed⟩ }
  else some layout

/-- The layout without the places that are too far behind. -/
def dropStale (layout : Layout) (here : Cell) : Option Layout :=
  let lost (start : Option NameStart) := start.any fun start => start.isStale here && start.needed
  let kept (start : Option NameStart) := start.filter fun start => !start.isStale here
  if lost layout.start || layout.outer.any lost then none
  else some { layout with start := kept layout.start, outer := layout.outer.map kept }

/-! ## One token -/

/-- What follows the blanks, comments and line ends at a place, and whether a name may
    start there.  A tab is a blank in brackets and behind a token only. -/
def skipGap (inFlow nameAllowed inComment : Bool) : List Cell → Bool × List Cell
  | [] => (nameAllowed, [])
  | cell :: rest =>
      if cell.isBreak then skipGap inFlow (nameAllowed || !inFlow) false rest
      else if inComment then skipGap inFlow nameAllowed true rest
      else if cell.char == ' ' || (cell.char == '\ufeff' && cell.column == 0)
          || (cell.char == '\t' && (inFlow || !nameAllowed)) then
        skipGap inFlow nameAllowed false rest
      else if cell.char == '#' then skipGap inFlow nameAllowed true rest
      else (nameAllowed, cell :: rest)

/-- A line that concerns whole documents: every block is closed before it. -/
def endBlocks (layout : Layout) : Option Layout :=
  (layout.closeWhile fun _ => true).dropStart

/-- A bracket opens. -/
def openFlow (layout : Layout) (here : Cell) (token : Token) : Option Layout :=
  (layout.keepStart here).map fun layout =>
    { layout.pushAllowing true token with
      start := none
      outer := layout.start :: layout.outer }

/-- A bracket closes. -/
def closeFlow (layout : Layout) (token : Token) : Option Layout :=
  layout.dropStart.map fun layout =>
    let layout :=
      match layout.outer with
      | start :: outer => { layout with start, outer }
      | [] => layout
    layout.pushAllowing false token

/-- A dash before an item, or a question mark before a name.  Outside brackets it may
    open a block. -/
def openEntry (layout : Layout) (here : Cell) (block token : Token) : Option Layout :=
  if layout.inFlow then layout.dropStart.map (·.pushAllowing (token == .dash) token)
  else if layout.nameAllowed then
    (layout.openAt here.column layout.tokens.size block).dropStart.map (·.pushAllowing true token)
  else none

/-- A colon before a value.  It makes a name of what started at the place that was kept,
    or else stands for itself. -/
def openValue (layout : Layout) (here : Cell) : Option Layout :=
  match layout.start with
  | some start =>
      let layout := { layout with tokens := layout.tokens.insertIdxIfInBounds start.index .name }
      let layout := layout.openAt start.cell.column start.index .openMembers
      some ({ layout with start := none }.pushAllowing false .value)
  | none =>
      if layout.inFlow then some (layout.pushAllowing false .value)
      else if layout.nameAllowed then
        some ((layout.openAt here.column layout.tokens.size .openMembers).pushAllowing true .value)
      else none

/-- A part of a node other than a block scalar: a name may start with it, and none may
    start right behind it. -/
def pushPart (layout : Layout) (here : Cell) (token : Token) : Option Layout :=
  (layout.keepStart here).map (·.pushAllowing false token)

/-- A scalar may start with a character without quotes. -/
def startsPlain (inFlow : Bool) (c : Char) (rest : List Cell) : Bool :=
  !(isFlowMark c
      || ['-', '?', ':', '#', '&', '*', '!', '|', '>', '\'', '"', '%', '@', '\x60',
        '\t'].contains c)
    || (c == '-' && !rest.head?.any Cell.isBlank)
    || (!inFlow && (c == '?' || c == ':') && !endsWord rest)

/-- A block scalar, which no name can start with. -/
def readBlockScalar (layout : Layout) (folded : Bool) (rest : List Cell) :
    Option (Layout × List Cell) := do
  let layout ← layout.dropStart
  let (text, rest) ← readBlock folded layout.columns.head? rest
  let style := if folded then ScalarStyle.other else .literal
  return (layout.pushAllowing true (.scalar (String.ofList text) style), rest)

/-- A plain scalar; if a line ends behind it, a name may start there. -/
def readPlainScalar (layout : Layout) (here : Cell) (rest : List Cell) :
    Option (Layout × List Cell) := do
  let layout ← layout.keepStart here
  let plain ← readPlain layout.inFlow (layout.columns.head?.elim 0 (· + 1)) [] (here :: rest)
  return (layout.pushAllowing plain.brokeLine (.scalar (String.ofList plain.text) .plain),
    plain.rest)

/-- The layout behind the next token, and what follows it. -/
def readToken (layout : Layout) (here : Cell) (rest : List Cell) : Option (Layout × List Cell) :=
  let cells := here :: rest
  let c := here.char
  if here.column = 0 && c == '%' then do
    let (directive, rest) ← readDirective rest
    return ((← layout.endBlocks).pushAllowing false (.directive directive), rest)
  else if startsMarker '-' cells then
    layout.endBlocks.map fun layout => (layout.pushAllowing false .documentStart, cells.drop 3)
  else if startsMarker '.' cells then
    layout.endBlocks.map fun layout => (layout.pushAllowing false .documentEnd, cells.drop 3)
  else if c == '[' then (layout.openFlow here .openBracket).map (·, rest)
  else if c == '\x7b' then (layout.openFlow here .openBrace).map (·, rest)
  else if c == ']' then (layout.closeFlow .closeBracket).map (·, rest)
  else if c == '\x7d' then (layout.closeFlow .closeBrace).map (·, rest)
  else if c == ',' then layout.dropStart.map fun layout => (layout.pushAllowing true .comma, rest)
  else if c == '-' && endsWord rest then (layout.openEntry here .openItems .dash).map (·, rest)
  else if c == '?' && (layout.inFlow || endsWord rest) then
    (layout.openEntry here .openMembers .name).map (·, rest)
  else if c == ':' && (layout.inFlow || endsWord rest) then (layout.openValue here).map (·, rest)
  else if c == '*' then do
    let (name, rest) ← readAnchor rest
    return (← layout.pushPart here (.alias name), rest)
  else if c == '&' then do
    let (name, rest) ← readAnchor rest
    return (← layout.pushPart here (.anchor name), rest)
  else if c == '!' then do
    let (tag, rest) ← readTag layout.inFlow cells
    return (← layout.pushPart here (.tag tag), rest)
  else if c == '|' && !layout.inFlow then layout.readBlockScalar false rest
  else if c == '>' && !layout.inFlow then layout.readBlockScalar true rest
  else if c == '\'' then do
    let (text, rest) ← readSingleQuoted [] rest
    return (← layout.pushPart here (.scalar (String.ofList text) .other), rest)
  else if c == '"' then do
    let (text, rest) ← readDoubleQuoted false [] rest
    return (← layout.pushPart here (.scalar (String.ofList text) .other), rest)
  else if startsPlain layout.inFlow c rest then layout.readPlainScalar here rest
  else none

/-- The tokens of the rest of a text, of which so many are read at most. -/
def readTokens (layout : Layout) (fuel : Nat) (cells : List Cell) : Option (List Token) :=
  let (nameAllowed, cells) := skipGap layout.inFlow layout.nameAllowed false cells
  let layout := { layout with nameAllowed }
  match fuel, cells with
  | _, [] => layout.endBlocks.map fun layout => layout.tokens.toList
  | 0, _ => none
  | fuel + 1, here :: rest => do
      let layout ← layout.dropStale here
      let (layout, rest) ← (layout.closeWhile (here.column < ·)).readToken here rest
      layout.readTokens fuel rest

end Layout

/-- The tokens of a text.  Each of them takes one character at least, so that there are
    no more of them to be read than characters. -/
def tokens? (text : String) : Option (List Token) := do
  let cells ← cells? text
  ({} : Layout).readTokens cells.length cells

end CatalogLint.Yaml
