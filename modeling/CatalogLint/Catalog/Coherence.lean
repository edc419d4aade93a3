import CatalogLint.Catalog.Parsed

/-! # Coherence of catalogs

    The catalogs of one directory must have the same keys, and each key the same
    markup in all of them.  The first catalog of a directory is the reference that
    the others are compared with. -/

namespace CatalogLint.Coherence

open Markup

/-- The keys of the reference that another catalog lacks. -/
def missingKeys (reference other : ParsedCatalog) : List String :=
  reference.orderedKeys.filter (!other.contains ·)

/-- The text of a finding about a missing key. -/
def missingFinding (reference other : ParsedCatalog) (key : String) : Finding :=
  (Finding.error .missingKey
    ("Key present in " ++ reference.name ++ " is missing in " ++ other.name ++ ". Key: "
      ++ key)).inFile other.name

/-- The text of a finding about a key that the reference lacks. -/
def extraFinding (reference other : ParsedCatalog) (key : String) : Finding :=
  (Finding.error .extraKey
    ("Extra key present in " ++ other.name ++ ". It was not found in " ++ reference.name
      ++ ". Key: " ++ key)).inFile other.name

/-- The text of a finding about the markup of a key. -/
def markupFinding (reference other : ParsedCatalog) (key : String) (diff : MarkupDiff) :
    Finding :=
  let message :=
    match diff with
    | .unexpected tag =>
        "A mark-up was found for " ++ key ++ " in " ++ other.name
          ++ " but it was not found in " ++ reference.name ++ ". Mark-up: " ++ tag
    | .missing tag =>
        "A mark-up was expected for " ++ key ++ " in " ++ other.name ++ ". See "
          ++ reference.name ++ ". Mark-up: " ++ tag
  (Finding.error .markupMismatch message).inFile other.name

/-- How the markup of a key differs, if both catalogs have a value for it. -/
def markupDiffs (reference other : ParsedCatalog) (key : String) : List MarkupDiff :=
  match reference.value? key, other.value? key with
  | some expected, some actual => Markup.compare expected actual
  | _, _ => []

/-- The findings about a catalog compared with the reference: missing keys, extra keys,
    then markup, each in the order of the keys. -/
def compareCatalogs (reference other : ParsedCatalog) : List Finding :=
  (missingKeys reference other).map (missingFinding reference other)
    ++ (missingKeys other reference).map (extraFinding reference other)
    ++ reference.orderedKeys.flatMap fun key =>
        (markupDiffs reference other key).map (markupFinding reference other key)

/-- The findings about the catalogs of one group. -/
def checkGroup : List ParsedCatalog → List Finding
  | [] => []
  | reference :: others => others.flatMap (compareCatalogs reference)

/-- The catalogs of one group are coherent: no finding about them is an error. -/
def groupCoherent (catalogs : List ParsedCatalog) : Bool :=
  !(checkGroup catalogs).any (·.isError)

/-- The directory groups that have something to compare. -/
def comparedGroups (catalogs : List ParsedCatalog) : List (List ParsedCatalog) :=
  (groupByDirectory ParsedCatalog.group catalogs).filter (2 ≤ ·.length)

/-- The findings about all directory groups. -/
def checkAll (catalogs : List ParsedCatalog) : List Finding :=
  (comparedGroups catalogs).flatMap checkGroup

/-- The catalogs of every directory are coherent. -/
def allCoherent (catalogs : List ParsedCatalog) : Bool :=
  (comparedGroups catalogs).all groupCoherent

/-! ## One record for all groups -/

/-- Puts the findings about one group behind those of a record.  The group passes if none
    of the findings that it brings is an error; those before them do not count. -/
def recordGroup (catalogs : List ParsedCatalog) (record : List Finding) :
    Bool × List Finding :=
  match catalogs with
  | [] => (true, record)
  | reference :: others =>
      let extended :=
        others.foldl (fun record other => record ++ compareCatalogs reference other) record
      (!(extended.drop record.length).any (·.isError), extended)

/-- Goes on with one more group, unless it has nothing to compare. -/
def recordNext (state : Bool × List Finding) (group : List ParsedCatalog) :
    Bool × List Finding :=
  if group.length < 2 then state
  else
    let (passes, extended) := recordGroup group state.2
    (state.1 && passes, extended)

/-- Puts the findings about all directory groups behind those of a record, and says whether
    every group passes. -/
def recordAll (catalogs : List ParsedCatalog) (record : List Finding) : Bool × List Finding :=
  (groupByDirectory ParsedCatalog.group catalogs).foldl recordNext (true, record)

end CatalogLint.Coherence
