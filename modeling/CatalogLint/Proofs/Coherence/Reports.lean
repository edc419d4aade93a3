import CatalogLint.Proofs.Coherence.Directories

/-! # The reports about a group

    Each catalog of a group but the first is compared with the first one, and the findings go
    behind what is on record.  Which keys they are about can be told from the keys of the two
    catalogs (`missingKeys_eq_filter`), and markup is compared for the keys that both have a
    value for, and for no other (`flatMap_markupDiffs_eq`).  Every finding is an error in the
    file of the catalog that is compared, and its text names that catalog, the reference and
    the key (`AboutKey`).  With that the reports about a group are known one by one and in
    their order (`coherence_findings_are_exact`). -/

namespace CatalogLint.Coherence

open Markup

variable {reference other : ParsedCatalog} {key text name : String}

/-! ## Texts -/

/-- A name stands in a text. -/
def Mentions (text name : String) : Prop :=
  name.toList <:+: text.toList

/-- A name that a text ends with stands in the text. -/
theorem mentions_append (before name : String) : Mentions (before ++ name) name := by
  rw [Mentions, String.toList_append]
  exact (List.suffix_append _ _).isInfix

/-- More text leaves in it what stands there. -/
theorem Mentions.append (h : Mentions text name) (after : String) :
    Mentions (text ++ after) name := by
  rw [Mentions, String.toList_append]
  exact h.trans (List.prefix_append _ _).isInfix

/-- An error under a rule about a key of a catalog that has been compared with the
    reference: it is in the file of the catalog, has the given text, and names both of them
    and the key. -/
structure AboutKey (rule : Category) (reference other : ParsedCatalog) (key text : String)
    (finding : Finding) : Prop where
  category : finding.category = rule
  severity : finding.severity = .error
  file : finding.file = some other.name
  message : finding.message = text
  reference_named : Mentions finding.message reference.name
  other_named : Mentions finding.message other.name
  key_named : Mentions finding.message key

/-- What a finding about a missing key says. -/
theorem aboutKey_missingFinding (reference other : ParsedCatalog) (key : String) :
    AboutKey .missingKey reference other key
      ("Key present in " ++ reference.name ++ " is missing in " ++ other.name ++ ". Key: " ++ key)
      (missingFinding reference other key) where
  category := rfl
  severity := rfl
  file := rfl
  message := rfl
  reference_named := ((((mentions_append _ _).append _).append _).append _).append _
  other_named := ((mentions_append _ _).append _).append _
  key_named := mentions_append _ _

/-- What a finding about an extra key says. -/
theorem aboutKey_extraFinding (reference other : ParsedCatalog) (key : String) :
    AboutKey .extraKey reference other key
      ("Extra key present in " ++ other.name ++ ". It was not found in " ++ reference.name
        ++ ". Key: " ++ key)
      (extraFinding reference other key) where
  category := rfl
  severity := rfl
  file := rfl
  message := rfl
  reference_named := ((mentions_append _ _).append _).append _
  other_named := ((((mentions_append _ _).append _).append _).append _).append _
  key_named := mentions_append _ _

/-- What a finding about a tag that the reference does not have says. -/
theorem aboutKey_unexpected (reference other : ParsedCatalog) (key tag : String) :
    AboutKey .markupMismatch reference other key
      ("A mark-up was found for " ++ key ++ " in " ++ other.name ++ " but it was not found in "
        ++ reference.name ++ ". Mark-up: " ++ tag)
      (markupFinding reference other key (.unexpected tag)) where
  category := rfl
  severity := rfl
  file := rfl
  message := rfl
  reference_named := ((mentions_append _ _).append _).append _
  other_named := ((((mentions_append _ _).append _).append _).append _).append _
  key_named :=
    ((((((mentions_append _ _).append _).append _).append _).append _).append _).append _

/-- What a finding about a tag that only the reference has says. -/
theorem aboutKey_missing (reference other : ParsedCatalog) (key tag : String) :
    AboutKey .markupMismatch reference other key
      ("A mark-up was expected for " ++ key ++ " in " ++ other.name ++ ". See " ++ reference.name
        ++ ". Mark-up: " ++ tag)
      (markupFinding reference other key (.missing tag)) where
  category := rfl
  severity := rfl
  file := rfl
  message := rfl
  reference_named := ((mentions_append _ _).append _).append _
  other_named := ((((mentions_append _ _).append _).append _).append _).append _
  key_named :=
    ((((((mentions_append _ _).append _).append _).append _).append _).append _).append _

/-! ## Keys -/

/-- A catalog lacks the keys that are not among its own. -/
theorem missingKeys_eq_filter (h : other.KeysMatch) :
    missingKeys reference other = reference.orderedKeys.filter (· ∉ other.orderedKeys) := by
  refine List.filter_congr fun key _ => ?_
  rw [Bool.eq_iff_iff, Bool.not_eq_true', decide_eq_true_iff, h key, Bool.not_eq_true]

/-- The keys of the reference that both catalogs have a value for. -/
def sharedKeys (reference other : ParsedCatalog) : List String :=
  reference.orderedKeys.filter fun key => reference.contains key && other.contains key

/-- The markup of a key that both catalogs have a value for is compared, the value of the
    reference first. -/
theorem exists_markupDiffs_eq (h : key ∈ sharedKeys reference other) :
    ∃ expected actual, reference.value? key = some expected ∧ other.value? key = some actual
      ∧ markupDiffs reference other key = Markup.compare expected actual := by
  have hboth := (List.mem_filter.mp h).2
  rw [Bool.and_eq_true] at hboth
  obtain ⟨expected, hexpected⟩ := Option.isSome_iff_exists.mp hboth.1
  obtain ⟨actual, hactual⟩ := Option.isSome_iff_exists.mp hboth.2
  refine ⟨expected, actual, hexpected, hactual, ?_⟩
  rw [markupDiffs, hexpected, hactual]

/-- Nothing is compared for a key that one of the catalogs has no value for. -/
theorem markupDiffs_eq_nil (h : (reference.contains key && other.contains key) = false) :
    markupDiffs reference other key = [] := by
  rw [markupDiffs]
  split
  · rename_i expected actual hexpected hactual
    rw [ParsedCatalog.contains, ParsedCatalog.contains, hexpected, hactual] at h
    exact absurd h.symm Bool.false_ne_true
  · rfl

/-- Markup is reported about for the keys that both catalogs have a value for. -/
theorem flatMap_markupDiffs_eq (reference other : ParsedCatalog)
    (report : String → MarkupDiff → Finding) :
    (reference.orderedKeys.flatMap fun key => (markupDiffs reference other key).map (report key))
      = (sharedKeys reference other).flatMap fun key =>
        (markupDiffs reference other key).map (report key) := by
  rw [sharedKeys]
  induction reference.orderedKeys with
  | nil => rfl
  | cons key rest ih =>
      rw [List.flatMap_cons, ih, List.filter_cons]
      split
      · rw [List.flatMap_cons]
      · rename_i hlacking
        rw [markupDiffs_eq_nil (Bool.eq_false_iff.mpr hlacking), List.map_nil, List.nil_append]

/-! ## Groups -/

/-- The findings about a catalog whose keys and values match, in terms of keys. -/
theorem compareCatalogs_eq (h : other.KeysMatch) :
    compareCatalogs reference other
      = (reference.orderedKeys.filter (· ∉ other.orderedKeys)).map (missingFinding reference other)
        ++ (other.orderedKeys.filter (¬ reference.contains ·)).map (extraFinding reference other)
        ++ (sharedKeys reference other).flatMap fun key =>
            (markupDiffs reference other key).map (markupFinding reference other key) := by
  rw [compareCatalogs, missingKeys_eq_filter h, flatMap_markupDiffs_eq]
  simp only [missingKeys, decide_not, Bool.decide_eq_true]

/-- **The reports about a group are exact and in order**, if the other catalogs have values for
    their keys and for nothing else.  Behind what is on record there are, for each of the other
    catalogs in their order: an error for each key of the reference that is missing, an error
    for each key that the reference does not have, and for each key that both have the
    differences between the value of the reference and that of the catalog, one error each.
    There is nothing else.  Every error is in the file of the catalog that is compared, and
    names it, the reference and the key; which of the two has too little or too much can be
    told from its words.

    Whether the reference has a key is told from its values.  If they match its keys as well,
    the errors can be told from the keys alone. -/
theorem coherence_findings_are_exact (reference : ParsedCatalog) (others : List ParsedCatalog)
    (hothers : ∀ other ∈ others, ∀ key, key ∈ other.orderedKeys ↔ other.contains key = true)
    (record : List Finding) :
    let missing := fun other : ParsedCatalog =>
      reference.orderedKeys.filter (· ∉ other.orderedKeys)
    let extra := fun other : ParsedCatalog => other.orderedKeys.filter (¬ reference.contains ·)
    let shared := fun other : ParsedCatalog =>
      reference.orderedKeys.filter fun key => reference.contains key ∧ key ∈ other.orderedKeys
    (recordGroup (reference :: others) record).2
      = record ++ others.flatMap (fun other =>
          (missing other).map (missingFinding reference other)
          ++ (extra other).map (extraFinding reference other)
          ++ (shared other).flatMap fun key =>
              (markupDiffs reference other key).map (markupFinding reference other key))
    ∧ (∀ other ∈ others, ∀ key ∈ shared other, ∃ expected actual,
        reference.value? key = some expected ∧ other.value? key = some actual
        ∧ markupDiffs reference other key = Markup.compare expected actual)
    -- what the errors say
    ∧ (∀ other key, AboutKey .missingKey reference other key
        ("Key present in " ++ reference.name ++ " is missing in " ++ other.name ++ ". Key: "
          ++ key)
        (missingFinding reference other key))
    ∧ (∀ other key, AboutKey .extraKey reference other key
        ("Extra key present in " ++ other.name ++ ". It was not found in " ++ reference.name
          ++ ". Key: " ++ key)
        (extraFinding reference other key))
    ∧ (∀ other key tag, AboutKey .markupMismatch reference other key
        ("A mark-up was found for " ++ key ++ " in " ++ other.name
          ++ " but it was not found in " ++ reference.name ++ ". Mark-up: " ++ tag)
        (markupFinding reference other key (.unexpected tag)))
    ∧ (∀ other key tag, AboutKey .markupMismatch reference other key
        ("A mark-up was expected for " ++ key ++ " in " ++ other.name ++ ". See "
          ++ reference.name ++ ". Mark-up: " ++ tag)
        (markupFinding reference other key (.missing tag)))
    -- a reference whose values match its keys
    ∧ ((∀ key, key ∈ reference.orderedKeys ↔ reference.contains key = true) → ∀ other,
        extra other = other.orderedKeys.filter (· ∉ reference.orderedKeys)
        ∧ shared other = reference.orderedKeys.filter (· ∈ other.orderedKeys)) := by
  intro missing extra shared
  have hshared : ∀ other ∈ others, shared other = sharedKeys reference other := by
    intro other hother
    refine List.filter_congr fun key _ => ?_
    simp only [hothers other hother key, Bool.decide_and, Bool.decide_eq_true]
  refine ⟨?_, ?_, aboutKey_missingFinding reference, aboutKey_extraFinding reference,
    aboutKey_unexpected reference, aboutKey_missing reference, fun hreference other => ⟨?_, ?_⟩⟩
  · rw [recordGroup_eq, checkGroup]
    refine congrArg (record ++ ·) (List.flatMap_congr fun other hother => ?_)
    rw [compareCatalogs_eq (hothers other hother), hshared other hother]
  · intro other hother key hkey
    rw [hshared other hother] at hkey
    exact exists_markupDiffs_eq hkey
  · exact List.filter_congr fun key _ => by simp only [hreference key]
  · refine List.filter_congr fun key hkey => ?_
    simp only [(hreference key).mp hkey, true_and]

/-- A reference and two catalogs that have been checked: the one lacks two of its keys, has
    one of its own and other tags in a value; the other has all of the keys, but no tags.
    What is reported about them is one-sided, and what is on record stays in front. -/
theorem reports_about_two_catalogs :
    let catalog := fun (name content : String) =>
      (Catalog.checkFile {} [] ⟨name, name, content⟩).1
    let english := catalog "en.json" "\"A\": \"a\"\n\"B\": \"<b>b</b>\"\n\"C\": \"c\""
    let french := catalog "fr.json" "\"D\": \"d\"\n\"B\": \"<i>b</i>\""
    let german := catalog "de.json" "\"A\": \"a\"\n\"B\": \"b\"\n\"C\": \"c\""
    let earlier : Finding := .warning .configuration "Earlier."
    (∀ other ∈ [french, german], ∀ key, key ∈ other.orderedKeys ↔ other.contains key = true)
    ∧ (recordGroup [english, french, german] [earlier]).2
      = [earlier,
        ⟨.missingKey, .error, "Key present in en.json is missing in fr.json. Key: A", none,
          some "fr.json"⟩,
        ⟨.missingKey, .error, "Key present in en.json is missing in fr.json. Key: C", none,
          some "fr.json"⟩,
        ⟨.extraKey, .error, "Extra key present in fr.json. It was not found in en.json. Key: D",
          none, some "fr.json"⟩,
        ⟨.markupMismatch, .error, "A mark-up was found for B in fr.json but it was not found in "
          ++ "en.json. Mark-up: i", none, some "fr.json"⟩,
        ⟨.markupMismatch, .error, "A mark-up was expected for B in fr.json. See en.json. "
          ++ "Mark-up: b", none, some "fr.json"⟩,
        ⟨.markupMismatch, .error, "A mark-up was expected for B in de.json. See en.json. "
          ++ "Mark-up: b", none, some "de.json"⟩] := by
  intro catalog english french german earlier
  have hmatch : ∀ other ∈ [french, german], ∀ key,
      key ∈ other.orderedKeys ↔ other.contains key = true := by
    intro other hmem
    rcases List.mem_pair.mp hmem with rfl | rfl <;> exact Catalog.keysMatch_checkFile {} [] _
  exact ⟨hmatch,
    (coherence_findings_are_exact english [french, german] hmatch [earlier]).1.trans
      (by decide +kernel)⟩

end CatalogLint.Coherence
