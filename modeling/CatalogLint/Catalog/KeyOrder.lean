import CatalogLint.Unicode.CaseMap

/-! # The order of keys

    Keys are sorted without regard to case and to underscores. -/

namespace CatalogLint.Catalog

/-- What keys are sorted by: the key in lower case and without underscores. -/
def sortForm (key : String) : String :=
  String.ofList ((key.toList.filter (· != '_')).flatMap Unicode.lowerCase)

/-- The order of two keys. -/
def compareKeys (first second : String) : Ordering :=
  compare (sortForm first) (sortForm second)

end CatalogLint.Catalog
