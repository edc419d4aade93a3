import CatalogLint.Unicode.Blank
import CatalogLint.Text.Sweep

/-! # Inline markup

    Translated values may hold markup tags.  Two checks are independent of each
    other: the balance of the tags within one value, and the comparison of the tags
    of two values without regard to order.  A self-closing tag takes part in
    neither. -/

namespace CatalogLint.Markup

open Unicode Text

/-! ## Tags -/

/-- An opening tag: its name, and whether it closes itself. -/
structure Opening where
  name : List Char
  selfClosing : Bool
  deriving DecidableEq, Repr

/-- A character that can be part of the name of an opening tag. -/
def isNameChar (c : Char) : Bool :=
  c != '/' && c != '>' && !isBlank c

/-- An opening tag: `<`, a name, and either `>` or white space and whatever stands
    before the next `>`.  The tag closes itself if a slash stands right before that. -/
def scanOpening : Scanner Opening
  | _, '<' :: rest =>
      let name := rest.takeWhile isNameChar
      if name.isEmpty then none
      else
        match rest.drop name.length with
        | '>' :: _ => some { value := ⟨name, false⟩, more := name.length + 1 }
        | c :: tail =>
            if isBlank c then
              let inner := tail.takeWhile (· != '>')
              match tail.drop inner.length with
              | _ :: _ =>
                  some {
                    value := ⟨name, (c :: inner).getLast? == some '/'⟩
                    more := name.length + inner.length + 2 }
              | [] => none
            else none
        | [] => none
  | _, _ => none

/-- A closing tag: `</`, a name, and `>`. -/
def scanClosing : Scanner (List Char)
  | _, '<' :: '/' :: rest =>
      let name := rest.takeWhile (· != '>')
      if name.isEmpty then none
      else
        match rest.drop name.length with
        | _ :: _ => some { value := name, more := name.length + 2 }
        | [] => none
  | _, _ => none

/-- The names of the opening tags of a text that do not close themselves, in order. -/
def openingNames (text : List Char) : List (List Char) :=
  ((sweep scanOpening text).filter (!·.value.selfClosing)).map (·.value.name)

/-- The names of the opening tags of a value that do not close themselves, in order. -/
def openingTags (value : String) : List String :=
  (openingNames value.toList).map String.ofList

/-! ## Balance -/

/-- A tag that has no partner. -/
inductive TagIssue where
  | unclosed (name : String)
  | unopened (name : String)
  deriving DecidableEq, Repr

/-- The first opening tag that does not close itself: the text before it, its name,
    and the text after it. -/
def firstOpening (passing : Nat) : List Char → Option (List Char × List Char × List Char)
  | [] => none
  | c :: rest =>
      let further (passing : Nat) :=
        (firstOpening passing rest).map fun (before, found) => (c :: before, found)
      match passing with
      | passing + 1 => further passing
      | 0 =>
          match scanOpening none (c :: rest) with
          | none => further 0
          | some hit =>
              if hit.value.selfClosing then further hit.more
              else some ([], hit.value.name, rest.drop hit.more)

/-- The closing tag of a name. -/
def closingTag (name : List Char) : List Char :=
  ['<', '/'] ++ name ++ ['>']

/-- One round of pairing: the tag found to be unclosed, if it is, and the text that
    is left once the tag and its partner have been taken out. -/
structure Round where
  unclosed : Option (List Char)
  left : List Char

/-- The round for the first opening tag: its partner is the first closing tag of its
    name after it. -/
def nextRound? (text : List Char) : Option Round :=
  match firstOpening 0 text with
  | none => none
  | some (before, name, after) =>
      match splitOnce (closingTag name) after with
      | some (inner, outer) => some ⟨none, before ++ inner ++ outer⟩
      | none => some ⟨some name, before ++ after⟩

/-- The parts around the first opening tag are shorter than the text. -/
theorem firstOpening_length {passing : Nat} {text before name after : List Char}
    (h : firstOpening passing text = some (before, name, after)) :
    before.length + after.length < text.length := by
  induction text generalizing passing before with
  | nil => simp [firstOpening] at h
  | cons c rest ih =>
      have further {n : Nat}
          (h : ((firstOpening n rest).map fun (b, found) => (c :: b, found))
            = some (before, name, after)) :
          before.length + after.length < (c :: rest).length := by
        cases hr : firstOpening n rest with
        | none => simp [hr] at h
        | some found =>
            obtain ⟨b, m, a⟩ := found
            simp only [hr, Option.map_some, Option.some.injEq, Prod.mk.injEq] at h
            obtain ⟨rfl, rfl, rfl⟩ := h
            have := ih hr
            simp only [List.length_cons]
            omega
      unfold firstOpening at h
      split at h
      · exact further h
      · split at h
        · exact further h
        · rename_i hit _
          split at h
          · exact further h
          · cases h
            simp only [List.length_nil, List.length_drop, List.length_cons]
            omega

/-- Every round takes something out. -/
theorem nextRound?_length {text : List Char} {round : Round}
    (h : nextRound? text = some round) : round.left.length < text.length := by
  unfold nextRound? at h
  split at h
  · cases h
  · rename_i before name after hfirst
    have hlen := firstOpening_length hfirst
    split at h
    · rename_i inner outer hsplit
      have := splitOnce_length hsplit
      cases h
      simp only [List.length_append]
      omega
    · cases h
      simpa using hlen

/-- The rounds of pairing, until no opening tag is left. -/
def rounds (text : List Char) : List Round :=
  match h : nextRound? text with
  | none => []
  | some round =>
      have := nextRound?_length h
      round :: rounds round.left
termination_by text.length

/-- The text that is left after all rounds. -/
def leftover (text : List Char) : List Char :=
  ((rounds text).getLast?.map (·.left)).getD text

/-- Pairs every opening tag with the first closing tag of its name after it, and
    reports the tags that have no partner: the opening ones in order, then the
    closing ones in order. -/
def checkBalance (value : String) : List TagIssue :=
  ((rounds value.toList).filterMap (·.unclosed)).map (.unclosed <| String.ofList ·)
    ++ (sweep scanClosing (leftover value.toList)).map (.unopened <| String.ofList ·.value)

/-! ## Comparison -/

/-- A tag that one of two values has more often than the other. -/
inductive MarkupDiff where
  | unexpected (name : String)
  | missing (name : String)
  deriving DecidableEq, Repr

/-- Takes the tags of the compared value out of the expected ones; what is not there
    is unexpected, and what remains is missing. -/
def compareTags (expected : List String) : List String → List MarkupDiff
  | [] => expected.map .missing
  | tag :: rest =>
      if tag ∈ expected then compareTags (expected.erase tag) rest
      else .unexpected tag :: compareTags expected rest

/-- How the tags of a value differ from those of the reference, each name as often
    as it occurs and without regard to order. -/
def compare (reference compared : String) : List MarkupDiff :=
  compareTags (openingTags reference) (openingTags compared)

end CatalogLint.Markup
