import CatalogLint.KeyStore
import CatalogLint.Proofs.FirstOccurrences

/-! # Stores of keys as ordered sets

    A store keeps its keys in a list and in a set, and each of the two has its own readers.
    One more key goes to the end of the list if the set does not have it yet
    (`Agrees.ordered_insert`), and as long as the two agree this means that it is new in the
    list as well.  So what is listed after any number of calls is what was given in all of
    them, in the order in which it was first given (`ordered_foldl_extend`), however it was
    parted over the calls, and the set has the same keys (`agrees_foldl_extend`). -/

namespace CatalogLint

namespace KeyStore

variable {store : KeyStore} {given : List String}

/-! ## One store, many calls -/

/-- Calls one after the other come to one call with all their keys. -/
theorem foldl_extend (store : KeyStore) (calls : List (List String)) :
    calls.foldl extend store = store.extend calls.flatten :=
  List.foldl_flatten.symm

/-- List and set agree after any calls. -/
theorem agrees_foldl_extend (calls : List (List String)) :
    (calls.foldl extend empty).Agrees := by
  rw [foldl_extend]
  exact agrees_empty.extend calls.flatten

/-- One more key is listed at the end, if it is not listed yet. -/
theorem Agrees.ordered_insert (h : store.Agrees) (hgiven : store.ordered = given.eraseDups)
    (key : String) : (store.insert key).ordered = (given ++ [key]).eraseDups := by
  have hlisted : store.contains key = true ↔ key ∈ given := by
    rw [h.contains_iff, hgiven, List.mem_eraseDups]
  rw [eraseDups_concat, ← hgiven]
  by_cases hold : key ∈ given
  · rw [if_pos hold, insert_of_contains (hlisted.mpr hold)]
  · rw [if_neg hold,
      insert_of_not_contains (Bool.eq_false_iff.mpr fun hmem => hold (hlisted.mp hmem))]

/-- The keys of a list are listed behind those given before, in the order in which they first
    occur. -/
theorem Agrees.ordered_extend (h : store.Agrees) (hgiven : store.ordered = given.eraseDups)
    (keys : List String) : (store.extend keys).ordered = (given ++ keys).eraseDups := by
  induction keys generalizing store given with
  | nil => rw [List.append_nil, ← hgiven, KeyStore.extend, List.foldl_nil]
  | cons key rest ih =>
      rw [List.append_cons]
      exact ih (h.insert key) (h.ordered_insert hgiven key)

/-- **After any calls the keys given in them are listed**, in the order in which they first
    occur. -/
theorem ordered_foldl_extend (calls : List (List String)) :
    (calls.foldl extend empty).ordered = calls.flatten.eraseDups := by
  have hempty : empty.ordered = ([] : List String).eraseDups := rfl
  rw [foldl_extend]
  exact agrees_empty.ordered_extend hempty calls.flatten

/-! ## What a store tells -/

/-- List and set have the same keys, and as many of them. -/
theorem Agrees.ordered_perm_set (h : store.Agrees) : store.ordered.Perm store.set.toList := by
  refine (List.perm_ext_iff_of_nodup h.nodup (store.set.nodup_toList)).mpr fun key => ?_
  rw [← h.contains_iff, contains, SortedSet.contains, List.contains_iff_mem]

/-- A store is the set of the keys that were given, in the order in which they were first
    given: whoever walks it meets each of them once in this order, whoever looks for a key
    finds it if it was given, and it counts as many keys as there are.  The list and the set
    hold the same keys. -/
structure IsOrderedSetOf (store : KeyStore) (given : List String) : Prop where
  count_eq_one : ∀ key ∈ given, store.ordered.count key = 1
  in_order : store.ordered.Pairwise fun first second => given.idxOf first < given.idxOf second
  mem_ordered_iff : ∀ key, key ∈ store.ordered ↔ key ∈ given
  contains_iff : ∀ key, store.contains key = true ↔ key ∈ given
  size_eq_card : store.size = given.toFinset.card
  ordered_perm_set : store.ordered.Perm store.set.toList

/-- It is so if list and set agree, and each key is listed where it first occurs. -/
theorem Agrees.isOrderedSetOf (h : store.Agrees) (hgiven : store.ordered = given.eraseDups) :
    store.IsOrderedSetOf given where
  count_eq_one key hkey :=
    List.count_eq_one_of_mem h.nodup (hgiven ▸ List.mem_eraseDups.mpr hkey)
  in_order := hgiven ▸ pairwise_idxOf_eraseDups given
  mem_ordered_iff key := by rw [hgiven, List.mem_eraseDups]
  contains_iff key := by rw [h.contains_iff, hgiven, List.mem_eraseDups]
  size_eq_card := by rw [size, hgiven, length_eraseDups]
  ordered_perm_set := h.ordered_perm_set

/-- Any calls leave the ordered set of what was given in them. -/
theorem isOrderedSetOf_foldl_extend (calls : List (List String)) :
    (calls.foldl extend empty).IsOrderedSetOf calls.flatten :=
  (agrees_foldl_extend calls).isOrderedSetOf (ordered_foldl_extend calls)

end KeyStore

end CatalogLint
