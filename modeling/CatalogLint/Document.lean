import CatalogLint.Json.Value

/-! # Documents

    Options and reports are read from documents of several formats.  `Document` says
    what a format has to offer: which of its values are a text, a truth value, a
    number, a list, a map or a record. -/

namespace CatalogLint

/-- The ways to look at a value of a format. -/
class Document (δ : Type) where
  /-- The value is a text. -/
  text? : δ → Option String
  /-- The value is a truth value. -/
  flag? : δ → Option Bool
  /-- The value is a natural number. -/
  natural? : δ → Option Nat
  /-- The value stands for nothing. -/
  isNull : δ → Bool
  /-- The value is a list. -/
  items? : δ → Option (List δ)
  /-- The value is a map from texts; a name may occur more than once. -/
  members? : δ → Option (List (String × δ))
  /-- The value lists the fields of a record without their names, where a format
      allows that. -/
  positions? : δ → Option (List δ)

namespace Document

variable {δ : Type} [Document δ]

/-- The fields of a record.  By name, none of the known fields may occur twice, and the
    others are passed over.  By position, there may be no more values than fields, and
    no fewer than are needed. -/
def fields? (names : List String) (least : Nat) (document : δ) : Option (List (String × δ)) :=
  match positions? document with
  | some values =>
      if least ≤ values.length && values.length ≤ names.length then some (names.zip values)
      else none
  | none =>
      match members? document with
      | some members =>
          let known := members.filter fun member => names.contains member.1
          if (known.map Prod.fst).eraseDups.length = known.length then some known else none
      | none => none

/-- A field that has to be there. -/
def required? {α : Type} (read : δ → Option α) (name : String) (fields : List (String × δ)) :
    Option α :=
  (fields.lookup name).bind read

/-- A field that takes a standard value when it is not there. -/
def optional? {α : Type} (standard : α) (read : δ → Option α) (name : String)
    (fields : List (String × δ)) : Option α :=
  match fields.lookup name with
  | some value => read value
  | none => some standard

/-- A list of values of one kind. -/
def listOf? {α : Type} (read : δ → Option α) (document : δ) : Option (List α) :=
  (items? document).bind (·.mapM read)

/-- A list of texts. -/
def texts? (document : δ) : Option (List String) :=
  listOf? text? document

end Document

/-- Numbers that are computed with fit into 64 bits. -/
def naturalBound : Nat := 0x10000000000000000

instance : Document Json where
  text?
    | .string text => some text
    | _ => none
  flag?
    | .bool value => some value
    | _ => none
  natural?
    | .natural value => if value < naturalBound then some value else none
    | _ => none
  isNull
    | .null => true
    | _ => false
  items?
    | .array items => some items
    | _ => none
  members?
    | .object members => some members
    | _ => none
  positions?
    | .array items => some items
    | _ => none

end CatalogLint
