import CatalogLint.Json.Value
import CatalogLint.Yaml.Cell
import CatalogLint.Yaml.Scalar

/-! # Writing YAML

    Values are written in block style: a member or an item on each line, members two
    spaces deeper than what they belong to, items as deep as it.  A text is written
    without quotes where it reads back as itself, in single quotes where that is enough,
    as a literal block if it has several lines, and in double quotes otherwise. -/

namespace CatalogLint.Yaml

/-! ## What a text is made of -/

/-- A space, a tab, the end of a line, or the null character. -/
def isBlankOrBreak (c : Char) : Bool :=
  c == ' ' || c == '\t' || c == '\x00' || isBreak c

/-- The characters that may be written as they are. -/
def isPrintable (c : Char) : Bool :=
  c == '\n' || (' ' ≤ c && c ≤ '~')
    || ('\xa0' ≤ c && c != '\ufeff' && c != '\ufffe' && c != '\uffff')

/-- The next character ends a word, or there is none. -/
def wordEnds (text : List Char) : Bool :=
  text.head?.all isBlankOrBreak

/-- Two characters with these properties stand side by side. -/
def hasPair (first second : Char → Bool) (text : List Char) : Bool :=
  (text.zip text.tail).any fun (a, b) => first a && second b

/-- A mark inside the text that would be read as structure: a colon at the end of a
    word, or a number sign at the start of one. -/
def hasInnerMark (before : Char) : List Char → Bool
  | [] => false
  | c :: rest =>
      (c == ':' && wordEnds rest) || (c == '#' && isBlankOrBreak before) || hasInnerMark c rest

/-- The start of the text would be read as structure. -/
def startsAsMark (text : List Char) : Bool :=
  ['-', '-', '-'].isPrefixOf text || ['.', '.', '.'].isPrefixOf text ||
    match text with
    | [] => false
    | c :: rest =>
        ['#', ',', '[', ']', '\x7b', '\x7d', '&', '*', '!', '|', '>', '\'', '"', '%', '@',
          '\x60'].contains c
          || (['?', ':', '-'].contains c && wordEnds rest)

/-- The text has a space or the end of a line at one of its ends. -/
def hasOuterSpace (text : List Char) : Bool :=
  let isSpace (c : Char) := c == ' ' || isBreak c
  text.head?.any isSpace || text.getLast?.any isSpace

/-- The text may be written without quotes. -/
def allowsPlain (text : List Char) : Bool :=
  text.all isPrintable && !text.any isBreak && !hasOuterSpace text && !startsAsMark text
    && !hasInnerMark (text.headD ' ') text.tail

/-- The text may be written in single quotes. -/
def allowsSingleQuotes (text : List Char) : Bool :=
  text.all isPrintable && !hasPair isBreak (· == ' ') text && !hasPair (· == ' ') isBreak text

/-- The text may be written as a literal block. -/
def allowsBlock (text : List Char) : Bool :=
  text.all isPrintable && !hasPair (· == ' ') isBreak text && text.getLast? != some ' '

/-! ## Texts -/

/-- The start of a line at a depth. -/
def indent (depth : Nat) : List Char :=
  List.replicate depth ' '

/-- A text in single quotes; a quote is written twice, and what follows the end of a
    line is indented. -/
def singleQuoted (depth : Nat) (text : List Char) : List Char :=
  '\'' :: (go false text ++ ['\''])
where
  go (afterBreak : Bool) : List Char → List Char
    | [] => if afterBreak then indent depth else []
    | c :: rest =>
        if isBreak c then
          (if c == '\n' && !afterBreak then ['\n', '\n'] else [c]) ++ go true rest
        else
          (if afterBreak then indent depth else [])
            ++ (if c == '\'' then ['\'', '\''] else [c]) ++ go false rest

/-- A number in hexadecimal, with so many digits. -/
def hex (value : Nat) : Nat → List Char
  | 0 => []
  | digits + 1 =>
      hex (value / 16) digits ++ ["0123456789ABCDEF".toList.getD (value % 16) '0']

/-- A character as it is written in double quotes. -/
def escapeChar (c : Char) : List Char :=
  if c == '"' || c == '\\' then ['\\', c]
  else if isPrintable c && !isBreak c then [c]
  else
    match c with
    | '\x00' => ['\\', '0']
    | '\x07' => ['\\', 'a']
    | '\x08' => ['\\', 'b']
    | '\t' => ['\\', 't']
    | '\n' => ['\\', 'n']
    | '\x0b' => ['\\', 'v']
    | '\x0c' => ['\\', 'f']
    | '\r' => ['\\', 'r']
    | '\x1b' => ['\\', 'e']
    | '\x85' => ['\\', 'N']
    | '\u2028' => ['\\', 'L']
    | '\u2029' => ['\\', 'P']
    | _ =>
        if c.toNat ≤ 0xFF then '\\' :: 'x' :: hex c.toNat 2
        else if c.toNat ≤ 0xFFFF then '\\' :: 'u' :: hex c.toNat 4
        else '\\' :: 'U' :: hex c.toNat 8

/-- A text in double quotes. -/
def doubleQuoted (text : List Char) : List Char :=
  '"' :: (text.flatMap escapeChar ++ ['"'])

/-- The lines of a literal block, each of them indented unless it is empty. -/
def blockLines (depth : Nat) (atStart : Bool) : List Char → List Char
  | [] => []
  | c :: rest =>
      if isBreak c then c :: blockLines depth true rest
      else (if atStart then indent depth else []) ++ c :: blockLines depth false rest

/-- A text as a literal block.  The mark is followed by the depth if the text starts with
    a space or the end of a line, by a minus sign if no line end follows the last
    line, and by a plus sign if more than one does. -/
def literalBlock (depth : Nat) (text : List Char) : List Char :=
  let depthMark := if text.head?.any (fun c => c == ' ' || isBreak c) then ['2'] else []
  let endMark :=
    match text.reverse with
    | [] => ['-']
    | [last] => if isBreak last then ['+'] else ['-']
    | last :: before :: _ =>
        if !isBreak last then ['-'] else if isBreak before then ['+'] else []
  '|' :: (depthMark ++ endMark ++ '\n' :: blockLines depth true text)

/-- A text as it is written after a name or a dash, at the depth of its own lines. -/
def writeText (depth : Nat) (text : String) : List Char :=
  let chars := text.toList
  if chars.contains '\n' then
    if allowsBlock chars then literalBlock depth chars else doubleQuoted chars
  else if allowsPlain chars && !readsAsOther text then chars
  else if allowsSingleQuotes chars then singleQuoted depth chars
  else doubleQuoted chars

/-- The text with the end of its last line, if that is missing. -/
def endLine (text : List Char) : List Char :=
  if text.getLast? = some '\n' then text else text ++ ['\n']

/-! ## Values -/

mutual

/-- A value as it is written after a name at a depth, up to the end of its last line. -/
def writeAfterName (depth : Nat) : Json → List Char
  | .array [] => [' ', '[', ']', '\n']
  | .array (item :: items) => '\n' :: writeItems depth true (item :: items)
  | .object [] => [' ', '\x7b', '\x7d', '\n']
  | .object (member :: members) => '\n' :: writeMembers (depth + 2) true (member :: members)
  | .null | .broken => " null\n".toList
  | .bool value => (if value then " true\n" else " false\n").toList
  | .natural value => ' ' :: ((toString value).toList ++ ['\n'])
  | .number written => ' ' :: (written.toList ++ ['\n'])
  | .string text => ' ' :: endLine (writeText (depth + 2) text)

/-- A value as it is written after a dash at a depth: what it holds starts on the line
    of the dash. -/
def writeAfterDash (depth : Nat) : Json → List Char
  | .array [] => [' ', '[', ']', '\n']
  | .array (item :: items) => ' ' :: writeItems (depth + 2) false (item :: items)
  | .object [] => [' ', '\x7b', '\x7d', '\n']
  | .object (member :: members) => ' ' :: writeMembers (depth + 2) false (member :: members)
  | .null | .broken => " null\n".toList
  | .bool value => (if value then " true\n" else " false\n").toList
  | .natural value => ' ' :: ((toString value).toList ++ ['\n'])
  | .number written => ' ' :: (written.toList ++ ['\n'])
  | .string text => ' ' :: endLine (writeText (depth + 2) text)

/-- Items, each after a dash; the first one is indented only if it starts a line. -/
def writeItems (depth : Nat) (startsLine : Bool) : List Json → List Char
  | [] => []
  | item :: items =>
      (if startsLine then indent depth else []) ++ '-' :: writeAfterDash depth item
        ++ writeItems depth true items

/-- Members, each with its name; the first one is indented only if it starts a line. -/
def writeMembers (depth : Nat) (startsLine : Bool) : List (String × Json) → List Char
  | [] => []
  | (name, value) :: members =>
      (if startsLine then indent depth else []) ++ writeText depth name ++ ':' ::
        writeAfterName depth value ++ writeMembers depth true members

end

/-- The text of a whole document. -/
def write (value : Json) : String :=
  match value with
  | .object (member :: members) => String.ofList (writeMembers 0 true (member :: members))
  | .array (item :: items) => String.ofList (writeItems 0 true (item :: items))
  | _ => String.ofList ((writeAfterDash 0 value).drop 1)

end CatalogLint.Yaml
