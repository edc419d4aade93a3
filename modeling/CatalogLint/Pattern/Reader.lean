import CatalogLint.Pattern.Expr
import CatalogLint.Unicode.Property
import CatalogLint.Unicode.Blank
import CatalogLint.Text.Sweep

/-! # Reading patterns

    The written form of a pattern: alternatives, groups, repetitions, bracketed
    classes with set operations, escapes, and flags that may change inside the
    pattern.  `read?` gives the expression, or `none` where the text is no pattern.

    The reader is a walk over the characters that are left.  It also keeps the
    depth of nesting, which is bounded, and the weight of the expression, which is
    bounded too: a pattern beyond either bound is no pattern. -/

namespace CatalogLint.Pattern

open Unicode Text

/-- The flags in force at a place of a pattern. -/
structure Flags where
  anyCase : Bool
  multiLine : Bool := false
  dotMatchesNewline : Bool := false
  carriageReturns : Bool := false
  wide : Bool := true
  verbose : Bool := false
  deriving Repr, DecidableEq

/-- What is left of the written pattern, the flags, and the group names used. -/
structure Cursor where
  rest : List Char
  flags : Flags
  names : List (List Char) := []

/-- A reader takes from the written pattern, or fails. -/
abbrev Reader := StateT Cursor Option

/-- An expression with the depth of its nesting. -/
structure Piece where
  expr : Expr
  depth : Nat := 0

/-- A class with the depth of its nesting. -/
structure SetPiece where
  set : CharClass
  depth : Nat := 0

namespace Reader

/-! ## Single characters -/

/-- The text without white space and comments before it; the flag says that a
    comment has begun, which the end of the line closes. -/
def dropIgnored : Bool → List Char → List Char
  | _, [] => []
  | true, c :: rest => dropIgnored (c != '\n') rest
  | false, c :: rest =>
      if isBlank c then dropIgnored false rest
      else if c == '#' then dropIgnored true rest
      else c :: rest

/-- The next character, which stays. -/
def peek : Reader (Option Char) := do
  return (← get).rest.head?

/-- The character after the next one, ignoring white space where the flags say so. -/
def peekSecond (ignoring : Bool) : Reader (Option Char) := do
  let cursor ← get
  let tail := cursor.rest.tail
  return (if ignoring && cursor.flags.verbose then dropIgnored false tail else tail).head?

/-- Skips white space and comments where the flags say so. -/
def skip : Reader Unit :=
  modify fun cursor =>
    if cursor.flags.verbose then { cursor with rest := dropIgnored false cursor.rest } else cursor

/-- Leaves the next character behind. -/
def advance : Reader Unit :=
  modify fun cursor => { cursor with rest := cursor.rest.tail }

/-- Leaves the next character and what may be ignored after it behind. -/
def advanceSkip : Reader Unit := do
  advance
  skip

/-- Leaves the given text behind if it comes next. -/
def accept (text : List Char) : Reader Bool := do
  let cursor ← get
  if text.isPrefixOf cursor.rest then
    set { cursor with rest := cursor.rest.drop text.length }
    return true
  else return false

/-- The next character, which must exist. -/
def need : Reader Char := do
  match ← peek with
  | some c => return c
  | none => failure

/-- The characters up to the first one that fails the test, ignoring white space
    between them where the flags say so. -/
def takeSkipping (keep : Char → Bool) : Nat → Reader (List Char)
  | 0 => failure
  | fuel + 1 => do
      match ← peek with
      | some c =>
          if keep c then
            advanceSkip
            return c :: (← takeSkipping keep fuel)
          else return []
      | none => return []

/-- How many characters are left, with one to spare. -/
def remaining : Reader Nat := do
  return (← get).rest.length + 1

/-! ## Numbers -/

/-- The number written by decimal digits. -/
def decimalValue (digits : List Char) : Nat :=
  digits.foldl (fun value c => value * 10 + (c.toNat - '0'.toNat)) 0

/-- A decimal number below 2^32, with white space allowed around it; `none` when
    there is no digit. -/
def decimal : Reader (Option Nat) := do
  modify fun cursor => { cursor with rest := cursor.rest.dropWhile isBlank }
  let digits ← takeSkipping Char.isDigit (← remaining)
  modify fun cursor => { cursor with rest := cursor.rest.dropWhile isBlank }
  skip
  if digits.isEmpty then return none
  let value := decimalValue digits
  if value < 0x100000000 then return some value else failure

/-- The character with the code point written by hexadecimal digits. -/
def hexChar (digits : List Char) : Reader Char := do
  let code := CodeRange.number (String.ofList digits)
  if digits.isEmpty || code > 0x10FFFF || (0xD800 ≤ code && code ≤ 0xDFFF) then failure
  return Char.ofNat code

/-- The digits of a hexadecimal number. -/
def isHexDigit (c : Char) : Bool :=
  c.isDigit || ('a' ≤ c && c ≤ 'f') || ('A' ≤ c && c ≤ 'F')

/-- So many hexadecimal digits. -/
def hexDigits : Nat → Reader (List Char)
  | 0 => return []
  | count + 1 => do
      let c ← need
      if !isHexDigit c then failure
      advanceSkip
      return c :: (← hexDigits count)

/-! ## Escapes -/

/-- What an escape stands for: a character (and whether it was written as a byte),
    a class, or a condition. -/
inductive Escaped where
  | char (c : Char) (byte : Bool)
  | set (members : CharClass)
  | look (condition : Look)

/-- A code point in hexadecimal: in braces, or of a fixed number of digits. -/
def hexEscape (letter : Char) : Reader Escaped := do
  advanceSkip
  if (← need) == '{' then
    advanceSkip
    let digits ← takeSkipping isHexDigit (← remaining)
    if (← need) != '}' then failure
    advanceSkip
    return .char (← hexChar digits) false
  else
    let count := if letter == 'x' then 2 else if letter == 'u' then 4 else 8
    let digits ← hexDigits count
    return .char (← hexChar digits) (letter == 'x')

/-- The complement of a class, which exists only among all characters. -/
def negate (negated : Bool) (members : CharClass) : Reader CharClass := do
  if !negated then return members
  if (← get).flags.wide then return .compl members else failure

/-- The class closed under a change of case, where the flags say so. -/
def foldIfNeeded (members : CharClass) : Reader CharClass := do
  let flags := (← get).flags
  if !flags.anyCase then return members
  return if flags.wide then .anyCase members else .inter (.anyCase members) .ascii

/-- The class that a property query names, and whether the query itself negates it.
    An inequality is looked for first, then a colon, then an equals sign. -/
def queryClass? (query : List Char) : Option (CharClass × Bool) :=
  match splitOnce ['!', '='] query, splitOnce [':'] query, splitOnce ['='] query with
  | some (name, value), _, _ => (Property.valued? name value).map (·, true)
  | none, some (name, value), _ => (Property.valued? name value).map (·, false)
  | none, none, some (name, value) => (Property.valued? name value).map (·, false)
  | none, none, none => (Property.named? query).map (·, false)

/-- A class named by a property: one letter, or a query in braces. -/
def propertyEscape (letter : Char) : Reader Escaped := do
  if !(← get).flags.wide then failure
  advanceSkip
  let c ← need
  let query ←
    if c == '{' then do
      advanceSkip
      let query ← takeSkipping (· != '}') (← remaining)
      if (← need) != '}' then failure
      advance
      pure query
    else do
      if c == '\\' then failure
      advanceSkip
      pure [c]
  match if c == '{' then queryClass? query else (Property.named? query).map (·, false) with
  | some (members, unequal) =>
      return .set (← negate ((letter == 'P') != unequal) (← foldIfNeeded members))
  | none => failure

/-- The class of digits, white space or word characters that a letter names. -/
def shorthand (letter : Char) : Reader Escaped := do
  let wide := (← get).flags.wide
  let members : CharClass :=
    match letter.toLower with
    | 'd' => if wide then Property.digit else .run 0x30 0x39
    | 's' => if wide then Property.blank else .ranges [⟨0x9, 0xD, 1⟩, ⟨0x20, 0x20, 1⟩]
    | _ =>
        if wide then Property.word
        else .ranges [⟨0x30, 0x39, 1⟩, ⟨0x41, 0x5A, 1⟩, ⟨0x5F, 0x5F, 1⟩, ⟨0x61, 0x7A, 1⟩]
  advance
  return .set (← negate letter.isUpper members)

/-- The named word conditions, as in `\b{start}`; a brace that does not open a name
    is left where it is. -/
def namedWordEdge (wide : Bool) : Reader Look := do
  let before ← get
  advanceSkip
  let isNameChar (c : Char) : Bool := c.isAlpha || c == '-'
  if !isNameChar (← need) then
    set before
    return .wordEdge wide
  let name ← takeSkipping isNameChar (← remaining)
  if (← need) != '}' then failure
  advance
  match String.ofList name with
  | "start" => return .wordStart wide
  | "end" => return .wordEnd wide
  | "start-half" => return .wordStartHalf wide
  | "end-half" => return .wordEndHalf wide
  | _ => failure

/-- The characters that have a meaning in patterns and lose it after a backslash. -/
def isMeta (c : Char) : Bool :=
  ['\\', '.', '+', '*', '?', '(', ')', '|', '[', ']', '\x7b', '\x7d', '^', '$', '#', '&', '-',
    '~'].contains c

/-- What a backslash and the characters after it stand for. -/
def escape : Reader Escaped := do
  advance
  let c ← need
  let wide := (← get).flags.wide
  if c.isDigit then failure
  else if c == 'x' || c == 'u' || c == 'U' then hexEscape c
  else if c == 'p' || c == 'P' then propertyEscape c
  else if ['d', 's', 'w', 'D', 'S', 'W'].contains c then shorthand c
  else
    advance
    if isMeta c then return .char c false
    else if c.toNat < 128 && !c.isAlphanum && c != '<' && c != '>' then return .char c false
    else
      match c with
      | 'a' => return .char '\x07' false
      | 'f' => return .char '\x0c' false
      | 't' => return .char '\t' false
      | 'n' => return .char '\n' false
      | 'r' => return .char '\r' false
      | 'v' => return .char '\x0b' false
      | 'A' => return .look .textStart
      | 'z' => return .look .textEnd
      | 'B' => return .look (.notWordEdge wide)
      | '<' => return .look (.wordStart wide)
      | '>' => return .look (.wordEnd wide)
      | 'b' =>
          if (← peek) == some '{' then return .look (← namedWordEdge wide)
          else return .look (.wordEdge wide)
      | _ => failure

/-! ## Bracketed classes -/

/-- The ASCII classes that a name between colons stands for. -/
def asciiClass? (name : String) : Option CharClass :=
  match name with
  | "alnum" => some (.ranges [⟨0x30, 0x39, 1⟩, ⟨0x41, 0x5A, 1⟩, ⟨0x61, 0x7A, 1⟩])
  | "alpha" => some (.ranges [⟨0x41, 0x5A, 1⟩, ⟨0x61, 0x7A, 1⟩])
  | "ascii" => some .ascii
  | "blank" => some (.ranges [⟨0x9, 0x9, 1⟩, ⟨0x20, 0x20, 1⟩])
  | "cntrl" => some (.ranges [⟨0x0, 0x1F, 1⟩, ⟨0x7F, 0x7F, 1⟩])
  | "digit" => some (.run 0x30 0x39)
  | "graph" => some (.run 0x21 0x7E)
  | "lower" => some (.run 0x61 0x7A)
  | "print" => some (.run 0x20 0x7E)
  | "punct" =>
      some (.ranges [⟨0x21, 0x2F, 1⟩, ⟨0x3A, 0x40, 1⟩, ⟨0x5B, 0x60, 1⟩, ⟨0x7B, 0x7E, 1⟩])
  | "space" => some (.ranges [⟨0x9, 0xD, 1⟩, ⟨0x20, 0x20, 1⟩])
  | "upper" => some (.run 0x41 0x5A)
  | "word" =>
      some (.ranges [⟨0x30, 0x39, 1⟩, ⟨0x41, 0x5A, 1⟩, ⟨0x5F, 0x5F, 1⟩, ⟨0x61, 0x7A, 1⟩])
  | "xdigit" => some (.ranges [⟨0x30, 0x39, 1⟩, ⟨0x41, 0x46, 1⟩, ⟨0x61, 0x66, 1⟩])
  | _ => none

/-- A named ASCII class such as `[:alpha:]`; `none`, and nothing read, if there is
    none here. -/
def namedClass : Reader (Option CharClass) := do
  let before ← get
  match before.rest with
  | '[' :: ':' :: rest =>
      let (negated, rest) :=
        match rest with
        | '^' :: rest => (true, rest)
        | _ => (false, rest)
      let name := rest.takeWhile (· != ':')
      match rest.drop name.length, asciiClass? (String.ofList name) with
      | ':' :: ']' :: rest, some members =>
          set { before with rest }
          return some (← negate negated (← foldIfNeeded members))
      | _, _ => return none
  | _ => return none

/-- One end of a range, or a class that stands alone. -/
def setItem : Reader Escaped := do
  if (← need) == '\\' then escape
  else
    let c ← need
    advance
    return .char c false

/-- A character that may stand in a class: without all characters, one of ASCII. -/
def setChar (c : Char) : Reader Char := do
  if (← get).flags.wide || c.toNat < 128 then return c else failure

/-- A single member of a class: a character, a range, or a class given by an escape. -/
def setRange : Reader SetPiece := do
  let first ← setItem
  skip
  let next ← need
  let after ← peekSecond true
  if next != '-' || after == some ']' || after == some '-' then
    match first with
    | .char c _ => return ⟨.single (← setChar c), 0⟩
    | .set members => return ⟨members, 0⟩
    | .look _ => failure
  else
    advanceSkip
    let _ ← need
    match first, ← setItem with
    | .char low _, .char high _ =>
        let low ← setChar low
        let high ← setChar high
        if low ≤ high then return ⟨.run low.toNat high.toNat, 0⟩ else failure
    | _, _ => failure

/-- The operations between the parts of a class. -/
inductive SetOp where
  | inter
  | diff
  | symmDiff

/-- The class that an operation makes of two classes. -/
def SetOp.apply : SetOp → CharClass → CharClass → CharClass
  | .inter => .inter
  | .diff => .diff
  | .symmDiff => .symmDiff

/-- The union of the members read so far. -/
def unite (items : List SetPiece) : SetPiece :=
  match items with
  | [] => ⟨.empty, 0⟩
  | [only] => only
  | _ => ⟨.unions (items.map (·.set)), 1 + (items.map (·.depth)).foldl max 0⟩

/-- A pending operation applied to the part that has just ended. -/
def applyPending (pending : Option (SetOp × SetPiece)) (part : SetPiece) : Reader SetPiece := do
  match pending with
  | none => return part
  | some (op, left) =>
      return ⟨op.apply (← foldIfNeeded left.set) (← foldIfNeeded part.set),
        1 + max left.depth part.depth⟩

/-- Hyphens at the start of a class, which stand for themselves. -/
def leadingHyphens : Nat → Reader (List SetPiece)
  | 0 => failure
  | fuel + 1 => do
      if (← need) == '-' then
        advanceSkip
        return ⟨.single '-', 0⟩ :: (← leadingHyphens fuel)
      else return []

/-- The start of a bracketed class: whether it is negated, and the members that
    stand for themselves only there. -/
def setStart : Reader (Bool × List SetPiece) := do
  advanceSkip
  let negated := (← need) == '^'
  if negated then advanceSkip
  let hyphens ← leadingHyphens (← remaining)
  if hyphens.isEmpty && (← need) == ']' then
    advanceSkip
    let _ ← need
    return (negated, [⟨.single ']', 0⟩])
  else return (negated, hyphens)

/-- The members of a bracketed class up to its closing bracket. -/
def setBody (fuel : Nat) (negated : Bool) (pending : Option (SetOp × SetPiece))
    (items : List SetPiece) : Reader SetPiece :=
  match fuel with
  | 0 => failure
  | fuel + 1 => do
      skip
      let c ← need
      let operation (op : SetOp) : Reader SetPiece := do
        advance
        advance
        setBody fuel negated (some (op, ← applyPending pending (unite items))) []
      let doubled := (← peekSecond false) == some c
      if c == '[' then
        match ← namedClass with
        | some members => setBody fuel negated pending (items ++ [⟨members, 0⟩])
        | none =>
            let (innerNegated, first) ← setStart
            let inner ← setBody fuel innerNegated none first
            setBody fuel negated pending (items ++ [inner])
      else if c == ']' then
        let whole ← applyPending pending (unite items)
        advance
        return ⟨← negate negated (← foldIfNeeded whole.set), 1 + whole.depth⟩
      else if c == '&' && doubled then operation .inter
      else if c == '-' && doubled then operation .diff
      else if c == '~' && doubled then operation .symmDiff
      else
        let item ← setRange
        setBody fuel negated pending (items ++ [item])

/-- A bracketed class. -/
def bracketed : Reader Piece := do
  let fuel ← remaining
  let (negated, first) ← setStart
  let whole ← setBody fuel negated none first
  return ⟨.one whole.set, whole.depth⟩

/-! ## Flags and groups -/

/-- A flag set or cleared by its letter. -/
def Flags.update (flags : Flags) (letter : Char) (value : Bool) : Option Flags :=
  match letter with
  | 'i' => some { flags with anyCase := value }
  | 'm' => some { flags with multiLine := value }
  | 's' => some { flags with dotMatchesNewline := value }
  | 'U' => some flags
  | 'u' => some { flags with wide := value }
  | 'R' => some { flags with carriageReturns := value }
  | 'x' => some { flags with verbose := value }
  | _ => none

/-- The flags written up to a colon or a closing parenthesis, which is left: no
    letter twice, at most one minus sign, and a letter after it. -/
def flagList (flags : Flags) (seen : List Char) (clearing : Bool) :
    List Char → Option (Flags × List Char × List Char)
  | [] => none
  | c :: rest =>
      if c == ':' || c == ')' then
        if seen.head? == some '-' then none else some (flags, seen, c :: rest)
      else if seen.contains c then none
      else if c == '-' then flagList flags (c :: seen) true rest
      else
        match Flags.update flags c (!clearing) with
        | some flags => flagList flags (c :: seen) clearing rest
        | none => none

/-- A character that a group name may start with. -/
def isNameStart (c : Char) : Bool :=
  c == '_' || Property.isAlphabetic c

/-- A character that a group name may hold after its start. -/
def isNameChar (c : Char) : Bool :=
  c == '_' || c == '.' || c == '[' || c == ']' || Property.isAlphabetic c || Property.isNumeric c

/-- The name of a group up to the closing angle bracket; no name twice. -/
def groupName : Reader Unit := do
  let cursor ← get
  let name := cursor.rest.takeWhile (· != '>')
  match name, cursor.rest.drop name.length with
  | first :: others, '>' :: rest =>
      if isNameStart first && others.all isNameChar && !cursor.names.contains name then
        set { cursor with rest, names := name :: cursor.names }
      else failure
  | _, _ => failure

/-- The opening of a group: `true` if a group follows, `false` if only flags were set.
    Conditions on what stands before or after a group are not patterns here. -/
def groupStart : Reader Bool := do
  advance
  skip
  let rest := (← get).rest
  if ["?=", "?!", "?<=", "?<!"].any fun look => look.toList.isPrefixOf rest then failure
  if (← accept "?P<".toList) || (← accept "?<".toList) then
    groupName
    return true
  else if ← accept "?".toList then
    let cursor ← get
    match flagList cursor.flags [] false cursor.rest with
    | some (flags, seen, ')' :: rest) =>
        if seen.isEmpty then failure
        set { cursor with flags, rest }
        return false
    | some (flags, _, _ :: rest) =>
        set { cursor with flags, rest }
        return true
    | _ => failure
  else return true

/-! ## Repetitions -/

/-- The part that a repetition applies to: the last one, which must not be a mere
    setting of flags. -/
def repeated (items : List (Option Piece)) (least : Nat) (most : Option Nat) :
    Reader (List (Option Piece)) :=
  match items with
  | some last :: before => return some ⟨.count last.expr least most, 1 + last.depth⟩ :: before
  | _ => failure

/-- The bounds of a counted repetition, in braces, and the mark after them. -/
def bounds : Reader (Nat × Option Nat) := do
  advanceSkip
  let _ ← need
  let least ← decimal
  let most : Option Nat ←
    if (← need) == ',' then do
      advanceSkip
      if (← need) == '}' then pure none
      else do
        if least.isNone then failure
        match ← decimal with
        | some most => pure (some most)
        | none => failure
    else pure least
  match least with
  | none => failure
  | some least =>
      if (← need) != '}' then failure
      advanceSkip
      if (← peek) == some '?' then advance
      if most.all (least ≤ ·) then return (least, most) else failure

/-! ## Alternatives -/

/-- The parts of a branch one after the other; the latest part comes first. -/
def joinBranch (items : List (Option Piece)) : Piece :=
  let exprs := items.map fun item => (item.map (·.expr)).getD .empty
  let depth := (items.map fun item => (item.map (·.depth)).getD 0).foldl max 0
  match items, exprs with
  | [some only], _ => only
  | _, [] => ⟨.empty, 0⟩
  | _, last :: before =>
      ⟨before.foldl (fun tail first => .seq first tail) last,
        if items.length ≤ 1 then depth else depth + 1⟩

/-- The branches side by side; the latest branch comes first. -/
def joinBranches (branches : List Piece) : Piece :=
  match branches with
  | [] => ⟨.empty, 0⟩
  | [only] => only
  | last :: before =>
      ⟨before.foldl (fun rest first => .alt first.expr rest) last.expr,
        1 + (branches.map (·.depth)).foldl max 0⟩

/-- A character outside classes, closed under a change of case where the flags say
    so; without all characters only the letters of ASCII have a case. -/
def plainChar (c : Char) (byte : Bool) : Reader Piece := do
  let wide := (← get).flags.wide
  if !wide && byte && c.toNat > 0x7F then failure
  if !wide && c.toNat > 0x7F then return ⟨.one (.single c), 0⟩
  return ⟨.one (← foldIfNeeded (.single c)), 0⟩

/-- Any character, or any but the ends of lines. -/
def dot : Reader Piece := do
  let flags := (← get).flags
  advance
  if !flags.wide then failure
  let members : CharClass :=
    if flags.dotMatchesNewline then .all
    else if flags.carriageReturns then .compl (.ranges [⟨0xA, 0xA, 1⟩, ⟨0xD, 0xD, 1⟩])
    else .compl (.run 0xA 0xA)
  return ⟨.one members, 0⟩

/-- The condition that a caret or a dollar sign stands for. -/
def anchor (atStart : Bool) : Reader Piece := do
  let flags := (← get).flags
  advance
  let condition : Look :=
    if !flags.multiLine then (if atStart then .textStart else .textEnd)
    else if flags.carriageReturns then (if atStart then .anyLineStart else .anyLineEnd)
    else (if atStart then .lineStart else .lineEnd)
  return ⟨.look condition, 0⟩

/-- The alternatives up to a closing parenthesis or the end, which is left.  Flags
    set inside a group are forgotten after it. -/
def alternatives (fuel : Nat) (branches : List Piece) (items : List (Option Piece)) :
    Reader Piece :=
  match fuel with
  | 0 => failure
  | fuel + 1 => do
      skip
      let continueWith (piece : Piece) : Reader Piece :=
        alternatives fuel branches (some piece :: items)
      match ← peek with
      | none => return joinBranches (joinBranch items :: branches)
      | some c =>
          match c with
          | ')' => return joinBranches (joinBranch items :: branches)
          | '|' => do
              advance
              alternatives fuel (joinBranch items :: branches) []
          | '(' => do
              let flags := (← get).flags
              if ← groupStart then
                let inner ← alternatives fuel [] []
                if (← need) != ')' then failure
                advance
                modify fun cursor => { cursor with flags }
                continueWith ⟨inner.expr, 1 + inner.depth⟩
              else alternatives fuel branches (none :: items)
          | '[' => do continueWith (← bracketed)
          | '?' | '*' | '+' => do
              let items ←
                repeated items (if c == '+' then 1 else 0) (if c == '?' then some 1 else none)
              advance
              if (← peek) == some '?' then advance
              alternatives fuel branches items
          | '{' => do
              if items.isEmpty then failure
              let (least, most) ← bounds
              alternatives fuel branches (← repeated items least most)
          | '.' => do continueWith (← dot)
          | '^' => do continueWith (← anchor true)
          | '$' => do continueWith (← anchor false)
          | '\\' => do
              match ← escape with
              | .char c byte => continueWith (← plainChar c byte)
              | .set members => continueWith ⟨.one members, 0⟩
              | .look condition => continueWith ⟨.look condition, 0⟩
          | _ => do
              advance
              continueWith (← plainChar c false)

end Reader

/-- The deepest nesting that a pattern may have. -/
def depthLimit : Nat := 250

/-- The greatest weight that a pattern may have: ten mebibytes. -/
def weightLimit : Nat := 10 * 1024 * 1024

/-- The expression that a text writes, matched with or without regard to case. -/
def read? (text : String) (anyCase : Bool) : Option Expr := do
  let chars := text.toList
  let (whole, cursor) ← (Reader.alternatives (chars.length + 1) [] []).run ⟨chars, { anyCase }, []⟩
  if cursor.rest.isEmpty && whole.depth ≤ depthLimit && whole.expr.weight ≤ weightLimit then
    some whole.expr
  else none

end CatalogLint.Pattern
