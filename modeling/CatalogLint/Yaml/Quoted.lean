import CatalogLint.Yaml.Cell

/-! # Quoted scalars

    Both kinds of quotes hold words with gaps between them, and the gaps are folded.
    Single quotes know one escape, the quote written twice; double quotes know many,
    and a backslash at the end of a line takes the line end away. -/

namespace CatalogLint.Yaml

/-! ## Single quotes -/

/-- The text of a scalar after its opening single quote and a gap, and what follows its
    closing quote. -/
def readSingleQuoted (gap : List Char) : List Cell → Option (List Char × List Cell)
  | [] => none
  | cell :: rest =>
      if cell.isGap then readSingleQuoted (gap ++ [cell.char]) rest
      else if atDocumentMarker (cell :: rest) then none
      else if cell.char == '\'' then
        match rest with
        | next :: rest =>
            if next.char == '\'' then
              (readSingleQuoted [] rest).map fun (text, rest) => (fold gap ++ '\'' :: text, rest)
            else some (fold gap, next :: rest)
        | [] => some (fold gap, [])
      else
        (readSingleQuoted [] rest).map fun (text, rest) => (fold gap ++ cell.char :: text, rest)

/-! ## Double quotes -/

/-- The character that a single letter after a backslash stands for. -/
def shortEscape? (c : Char) : Option Char :=
  match c with
  | '0' => some '\x00'
  | 'a' => some '\x07'
  | 'b' => some '\x08'
  | 't' | '\t' => some '\t'
  | 'n' => some '\n'
  | 'v' => some '\x0b'
  | 'f' => some '\x0c'
  | 'r' => some '\r'
  | 'e' => some '\x1b'
  | ' ' => some ' '
  | '"' => some '"'
  | '/' => some '/'
  | '\\' => some '\\'
  | 'N' => some '\x85'
  | '_' => some '\xa0'
  | 'L' => some '\u2028'
  | 'P' => some '\u2029'
  | _ => none

/-- The number of hexadecimal digits that follow a letter after a backslash. -/
def digitsOfEscape? (c : Char) : Option Nat :=
  match c with
  | 'x' => some 2
  | 'u' => some 4
  | 'U' => some 8
  | _ => none

/-- The value of a hexadecimal digit. -/
def hexDigit? (c : Char) : Option Nat :=
  if '0' ≤ c ∧ c ≤ '9' then some (c.toNat - '0'.toNat)
  else if 'a' ≤ c ∧ c ≤ 'f' then some (c.toNat - 'a'.toNat + 10)
  else if 'A' ≤ c ∧ c ≤ 'F' then some (c.toNat - 'A'.toNat + 10)
  else none

/-- The character that hexadecimal digits number; half of a surrogate pair is none. -/
def charOfHex? (digits : List Char) : Option Char := do
  let value ← digits.foldlM (fun value c => (hexDigit? c).map (value * 16 + ·)) 0
  if value.isValidChar then return Char.ofNat value else none

/-- The character of an escape whose letter is given, and what follows it. -/
def readEscape (letter : Char) (rest : List Cell) : Option (Char × List Cell) :=
  match digitsOfEscape? letter with
  | some count =>
      if rest.length < count then none
      else (charOfHex? (charsOf (rest.take count))).map (·, rest.drop count)
  | none => (shortEscape? letter).map (·, rest)

/-- An escape leaves no more than there was. -/
theorem readEscape_length_le {letter c : Char} {rest after : List Cell}
    (h : readEscape letter rest = some (c, after)) : after.length ≤ rest.length := by
  unfold readEscape at h
  split at h
  · split at h
    · cases h
    · simp only [Option.map_eq_some_iff, Prod.mk.injEq] at h
      obtain ⟨_, _, _, rfl⟩ := h
      simp
  · simp only [Option.map_eq_some_iff, Prod.mk.injEq] at h
    obtain ⟨_, _, _, rfl⟩ := h
    exact Nat.le_refl _

/-- The text of a scalar after its opening double quote and a gap, and what follows its
    closing quote.  If the gap started with an escaped line end, only its other line
    ends count. -/
def readDoubleQuoted (escaped : Bool) (gap : List Char) (cells : List Cell) :
    Option (List Char × List Cell) :=
  match cells with
  | [] => none
  | cell :: rest =>
      let folded := if escaped then gap.filter isBreak else fold gap
      if cell.isGap then readDoubleQuoted escaped (gap ++ [cell.char]) rest
      else if atDocumentMarker (cell :: rest) then none
      else if cell.char == '"' then some (folded, rest)
      else if cell.char == '\\' then
        match rest with
        | [] => none
        | letter :: rest =>
            if letter.isBreak then
              (readDoubleQuoted true [] rest).map fun (text, rest) => (folded ++ text, rest)
            else
              match h : readEscape letter.char rest with
              | none => none
              | some (c, after) =>
                  have := readEscape_length_le h
                  (readDoubleQuoted false [] after).map fun (text, rest) =>
                    (folded ++ c :: text, rest)
      else
        (readDoubleQuoted false [] rest).map fun (text, rest) => (folded ++ cell.char :: text, rest)
termination_by cells.length
decreasing_by all_goals simp_wf <;> omega

end CatalogLint.Yaml
