/-! # JSON values

    A JSON text stands for a value.  Numbers are kept as they are written, except for
    natural numbers, which are the only ones that are computed with. -/

namespace CatalogLint

/-- A JSON value.  An object lists its members in the order of the text, repeated names
    included. -/
inductive Json where
  | null
  | bool (value : Bool)
  /-- A number written by digits alone. -/
  | natural (value : Nat)
  /-- Any other number, as it is written. -/
  | number (written : String)
  | string (text : String)
  | array (items : List Json)
  | object (members : List (String × Json))
  /-- A string, or an object with a name, that holds half of a surrogate pair: it is
      written as it should be but stands for no text. -/
  | broken

end CatalogLint
