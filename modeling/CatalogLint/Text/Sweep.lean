/-! # Sweeps over a text

    Texts are mined for small shapes, and never parsed as a whole.  A scanner
    recognizes one shape at the head of a text; a sweep tries it at every place from
    left to right and goes on behind each match, so that matches do not overlap.
    `sweep` lists what was found with the line it was found on, and `substitute`
    puts something else in its place. -/

namespace CatalogLint.Text

/-- What a scanner found at the head of a text. -/
structure Hit (α : Type) where
  value : α
  /-- How many characters of the match follow its first one; no match is empty. -/
  more : Nat
  /-- How many characters lie between the start of the match and the place to report. -/
  offset : Nat := 0

/-- A scanner sees the character before a text and the text itself. -/
abbrev Scanner (α : Type) := Option Char → List Char → Option (Hit α)

/-- Something found on a line of a text. -/
structure Located (α : Type) where
  value : α
  line : Nat
  deriving DecidableEq, Repr

/-- The number of line feeds in a text. -/
def lineFeeds (text : List Char) : Nat :=
  text.count '\n'

/-- The matches of a scanner in a text whose first character is on the given line,
    once the given number of characters has been passed over. -/
def sweepFrom {α : Type} (scan : Scanner α) (before : Option Char) (passing line : Nat) :
    List Char → List (Located α)
  | [] => []
  | c :: rest =>
      let next := line + lineFeeds [c]
      match passing with
      | passing + 1 => sweepFrom scan (some c) passing next rest
      | 0 =>
          match scan before (c :: rest) with
          | none => sweepFrom scan (some c) 0 next rest
          | some hit =>
              ⟨hit.value, line + lineFeeds ((c :: rest).take hit.offset)⟩
                :: sweepFrom scan (some c) hit.more next rest

/-- The matches of a scanner in a whole text, with their lines. -/
def sweep {α : Type} (scan : Scanner α) (text : List Char) : List (Located α) :=
  sweepFrom scan none 0 1 text

/-- The text with every match replaced by the value that was found. -/
def substituteFrom (scan : Scanner (List Char)) (before : Option Char) (passing : Nat) :
    List Char → List Char
  | [] => []
  | c :: rest =>
      match passing with
      | passing + 1 => substituteFrom scan (some c) passing rest
      | 0 =>
          match scan before (c :: rest) with
          | none => c :: substituteFrom scan (some c) 0 rest
          | some hit => hit.value ++ substituteFrom scan (some c) hit.more rest

/-- The whole text with every match replaced by the value that was found. -/
def substitute (scan : Scanner (List Char)) (text : List Char) : List Char :=
  substituteFrom scan none 0 text

/-! ## Pieces of a text -/

/-- The text after a given beginning, if it begins so. -/
def after? : List Char → List Char → Option (List Char)
  | [], text => some text
  | _ :: _, [] => none
  | p :: start, c :: text => if p = c then after? start text else none

/-- The two sides of the first occurrence of a mark in a text. -/
def splitOnce (mark : List Char) : List Char → Option (List Char × List Char)
  | [] => if mark.isEmpty then some ([], []) else none
  | c :: rest =>
      match after? mark (c :: rest) with
      | some tail => some ([], tail)
      | none => (splitOnce mark rest).map fun (left, right) => (c :: left, right)

/-- What is left after a beginning is no longer than the text. -/
theorem after?_length {start text rest : List Char} (h : after? start text = some rest) :
    rest.length ≤ text.length := by
  fun_induction after? start text with
  | case1 => cases h; exact Nat.le_refl _
  | case2 => cases h
  | case3 p start text ih => have := ih h; simp only [List.length_cons]; omega
  | case4 => cases h

/-- The two sides of a mark are together no longer than the text. -/
theorem splitOnce_length {mark text left right : List Char}
    (h : splitOnce mark text = some (left, right)) :
    left.length + right.length ≤ text.length := by
  induction text generalizing left with
  | nil =>
      unfold splitOnce at h
      split at h
      · cases h; simp
      · cases h
  | cons c rest ih =>
      unfold splitOnce at h
      split at h
      · rename_i found hfound
        cases h
        have := after?_length hfound
        simpa using this
      · cases hr : splitOnce mark rest with
        | none => simp [hr] at h
        | some found =>
            obtain ⟨l, r⟩ := found
            simp only [hr, Option.map_some, Option.some.injEq, Prod.mk.injEq] at h
            obtain ⟨rfl, rfl⟩ := h
            have := ih hr
            simp only [List.length_cons]
            omega

/-! ## Lines -/

/-- The line of a text that a byte offset lies on, counted from one.  An offset past
    the end lies on the last line; an offset inside a character lies on its line. -/
def lineOf (text : List Char) (offset : Nat) : Nat :=
  feedsBefore offset text + 1
where
  /-- The line feeds that start before a byte offset. -/
  feedsBefore : Nat → List Char → Nat
    | _, [] => 0
    | 0, _ => 0
    | offset, c :: rest => lineFeeds [c] + feedsBefore (offset - c.utf8Size) rest

end CatalogLint.Text
