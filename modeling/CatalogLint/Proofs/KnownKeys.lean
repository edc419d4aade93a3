import CatalogLint.Catalog.Parsed
import CatalogLint.Proofs.KeyStore

/-! # The known keys as an ordered set

    The keys of all catalogs are known, and nothing else (`mem_ofCatalogs`).  Which keys
    are known does not depend on the order of the catalogs; the order in which they became
    known does, but not their number (`ofCatalogs_perm`).  They are what one call for each
    catalog puts into a store (`store_ofCatalogs`), and after any calls the list and the set
    of a store hold what was given in them. -/

namespace CatalogLint

namespace KnownKeys

/-! ## The keys of catalogs -/

/-- One more call goes to the store. -/
theorem store_foldl_extend (known : KnownKeys) (calls : List (List String)) :
    (calls.foldl extend known).store = calls.foldl KeyStore.extend known.store := by
  induction calls generalizing known with
  | nil => rfl
  | cons keys rest ih => exact ih (known.extend keys)

/-- The keys of catalogs become known in one call for each catalog. -/
theorem store_ofCatalogs (catalogs : List ParsedCatalog) :
    (ofCatalogs catalogs).store
      = (catalogs.map (·.orderedKeys)).foldl KeyStore.extend .empty := by
  rw [ofCatalogs, ← List.foldl_map]
  exact store_foldl_extend empty _

/-- A key is known if it is a key of some catalog. -/
theorem mem_ofCatalogs {catalogs : List ParsedCatalog} {key : String} :
    key ∈ (ofCatalogs catalogs).keys ↔ ∃ catalog ∈ catalogs, key ∈ catalog.orderedKeys := by
  rw [keys, store_ofCatalogs, (KeyStore.isOrderedSetOf_foldl_extend _).mem_ordered_iff,
    ← List.flatMap_def, List.mem_flatMap]

/-- In another order the catalogs give the same known keys, possibly in another order. -/
theorem ofCatalogs_perm {catalogs others : List ParsedCatalog} (h : catalogs.Perm others) :
    (ofCatalogs catalogs).keys.Perm (ofCatalogs others).keys := by
  refine (List.perm_ext_iff_of_nodup (ofCatalogs catalogs).nodup (ofCatalogs others).nodup).mpr ?_
  intro key
  rw [mem_ofCatalogs, mem_ofCatalogs]
  simp only [h.mem_iff]

/-- **The known keys are an ordered set.**  After any calls that give keys, starting from no
    keys, the list and the set of the store hold the same keys: every key that was given is
    listed once, in the order of first appearance over all calls; the set has a key if it was
    given, and as many keys are listed as different ones were given.  Calls among which the
    same keys are parted in another way come to the same store, list and set.  The keys of
    catalogs become known so, catalog by catalog. -/
theorem known_keys_are_an_ordered_set (calls : List (List String)) :
    (calls.foldl KeyStore.extend .empty).IsOrderedSetOf calls.flatten
    ∧ (∀ others : List (List String), others.flatten = calls.flatten →
        others.foldl KeyStore.extend .empty = calls.foldl KeyStore.extend .empty)
    ∧ ∀ catalogs : List ParsedCatalog,
        (ofCatalogs catalogs).store.IsOrderedSetOf (catalogs.flatMap (·.orderedKeys))
        ∧ (ofCatalogs catalogs).store
          = (catalogs.map (·.orderedKeys)).foldl KeyStore.extend .empty := by
  refine ⟨KeyStore.isOrderedSetOf_foldl_extend calls, ?_, fun catalogs => ⟨?_, ?_⟩⟩
  · intro others hsame
    rw [KeyStore.foldl_extend, KeyStore.foldl_extend, hsame]
  · rw [store_ofCatalogs, List.flatMap_def]
    exact KeyStore.isOrderedSetOf_foldl_extend _
  · exact store_ofCatalogs catalogs

/-- A key that is given in two calls is listed where it was given first, and the same keys
    come to the same store in other calls.  The list is in the order of the calls, and the set
    in its own. -/
theorem known_keys_of_two_calls :
    let store := [["B", "A"], ["B", "C"]].foldl KeyStore.extend .empty
    [["B"], [], ["A", "B", "C"]].flatten = [["B", "A"], ["B", "C"]].flatten
    ∧ [["B"], [], ["A", "B", "C"]].foldl KeyStore.extend .empty = store
    ∧ store.ordered = ["B", "A", "C"] ∧ store.set.toList = ["A", "B", "C"]
    ∧ store.ordered.count "B" = 1 ∧ store.size = 3
    ∧ store.contains "A" = true ∧ store.contains "D" = false := by
  intro store
  obtain ⟨hset, hothers, -⟩ := known_keys_are_an_ordered_set [["B", "A"], ["B", "C"]]
  have hsame : [["B"], [], ["A", "B", "C"]].flatten = [["B", "A"], ["B", "C"]].flatten := rfl
  refine ⟨hsame, hothers _ hsame, by decide +kernel, by decide +kernel,
    hset.count_eq_one "B" (by decide), hset.size_eq_card, (hset.contains_iff "A").mpr (by decide),
    ?_⟩
  exact Bool.eq_false_iff.mpr fun hmem => absurd ((hset.contains_iff "D").mp hmem) (by decide)

end KnownKeys

end CatalogLint
