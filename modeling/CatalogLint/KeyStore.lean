import CatalogLint.Sorted

/-! # Stores of keys

    A store keeps its keys twice: in a list, in the order in which they came, and in a set,
    which tells whether a key is there.  Whoever walks a store or counts its keys reads the
    list; whoever looks for a key reads the set.

    `KeyStore.Agrees` says that both hold the same keys and that no key is listed twice.  One
    more key keeps them in step (`Agrees.insert`), and so does a list of keys
    (`Agrees.extend`). -/

namespace CatalogLint

/-- Keys in the order in which they came, and the set of them. -/
structure KeyStore where
  ordered : List String
  set : SortedSet

namespace KeyStore

/-- No keys. -/
def empty : KeyStore := ⟨[], .empty⟩

/-- The set has the key. -/
def contains (store : KeyStore) (key : String) : Bool :=
  store.set.contains key

/-- How many keys are listed. -/
def size (store : KeyStore) : Nat :=
  store.ordered.length

/-- The store with one more key: if the set does not have it yet, it comes into the set and
    to the end of the list. -/
def insert (store : KeyStore) (key : String) : KeyStore :=
  if store.contains key then store else ⟨store.ordered ++ [key], store.set.insert key⟩

/-- The store with the keys of a list. -/
def extend (store : KeyStore) (keys : List String) : KeyStore :=
  keys.foldl insert store

/-! ## List and set -/

/-- The set has the keys that are listed, and none is listed twice. -/
structure Agrees (store : KeyStore) : Prop where
  contains_iff : ∀ key, store.contains key = true ↔ key ∈ store.ordered
  nodup : store.ordered.Nodup

variable {store : KeyStore} {key other : String}

/-- A key that is there is not put in again. -/
theorem insert_of_contains (h : store.contains key = true) : store.insert key = store :=
  if_pos h

/-- A key that is new comes into the set and to the end of the list. -/
theorem insert_of_not_contains (h : store.contains key = false) :
    store.insert key = ⟨store.ordered ++ [key], store.set.insert key⟩ :=
  if_neg (Bool.eq_false_iff.mp h)

/-- List and set of an empty store agree. -/
theorem agrees_empty : empty.Agrees where
  contains_iff _ := iff_of_false Bool.false_ne_true List.not_mem_nil
  nodup := List.nodup_nil

/-- One more key keeps list and set in step. -/
theorem Agrees.insert (h : store.Agrees) (key : String) : (store.insert key).Agrees := by
  cases hkey : store.contains key with
  | true =>
      rw [insert_of_contains hkey]
      exact h
  | false =>
      have hnew : key ∉ store.ordered := fun hmem =>
        Bool.eq_false_iff.mp hkey ((h.contains_iff key).mpr hmem)
      rw [insert_of_not_contains hkey]
      refine ⟨fun other => ?_, ?_⟩
      · rw [contains, SortedSet.contains_insert, Bool.or_eq_true, beq_iff_eq,
          List.mem_append, List.mem_singleton, or_comm]
        exact or_congr_left (h.contains_iff other)
      · refine List.nodup_append.mpr ⟨h.nodup, List.pairwise_singleton _ key, ?_⟩
        rintro listed hlisted _ (_ | ⟨_, ⟨⟩⟩) rfl
        exact hnew hlisted

/-- The keys of a list keep list and set in step. -/
theorem Agrees.extend (h : store.Agrees) (keys : List String) : (store.extend keys).Agrees := by
  induction keys generalizing store with
  | nil => exact h
  | cons key rest ih => exact ih (h.insert key)

/-- One more key is listed, and nothing else. -/
theorem Agrees.mem_ordered_insert (h : store.Agrees) :
    other ∈ (store.insert key).ordered ↔ other ∈ store.ordered ∨ other = key := by
  cases hkey : store.contains key with
  | true =>
      have hlisted : key ∈ store.ordered := (h.contains_iff key).mp hkey
      rw [insert_of_contains hkey]
      refine ⟨Or.inl, ?_⟩
      rintro (hother | rfl)
      · exact hother
      · exact hlisted
  | false => rw [insert_of_not_contains hkey, List.mem_append, List.mem_singleton]

end KeyStore

end CatalogLint
