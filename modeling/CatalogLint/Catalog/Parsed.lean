import CatalogLint.Catalog.Check
import CatalogLint.Discovery
import CatalogLint.KnownKeys

/-! # Parsed catalogs

    What is kept of a catalog once it has been checked on its own: where it comes
    from, its keys, and their values. -/

namespace CatalogLint

/-- A catalog after its own check. -/
structure ParsedCatalog where
  /-- The language, which is the name of the file without its extension. -/
  language : String
  /-- The name the file is shown by. -/
  name : String
  path : String
  /-- The directory shared by the catalogs that are compared with each other. -/
  group : String
  orderedKeys : List String
  /-- The values, the latest first. -/
  values : List (String × String)
  deriving DecidableEq, Repr

namespace ParsedCatalog

/-- The value of a key. -/
def value? (catalog : ParsedCatalog) (key : String) : Option String :=
  catalog.values.lookup key

/-- The catalog has a value for the key. -/
def contains (catalog : ParsedCatalog) (key : String) : Bool :=
  (catalog.value? key).isSome

end ParsedCatalog

namespace KnownKeys

/-- The keys of all catalogs. -/
def ofCatalogs (catalogs : List ParsedCatalog) : KnownKeys :=
  catalogs.foldl (fun known catalog => known.extend catalog.orderedKeys) empty

end KnownKeys

namespace Catalog

/-- Checks a catalog file: the catalog, and its findings with the name of the file. -/
def checkFile (options : Options) (compiled : List (String × List CompiledPattern))
    (file : SourceFile) : ParsedCatalog × List Finding :=
  let checked := check options compiled file.content file.stem
  ({  language := file.stem
      name := file.name
      path := file.path
      group := file.group
      orderedKeys := checked.orderedKeys
      values := checked.values },
    checked.findings.map (·.inFile file.name))

end Catalog

end CatalogLint
