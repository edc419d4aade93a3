import CatalogLint.KeyStore

/-! # Known keys

    The keys of all catalogs: a store whose list and set agree.  The keys are listed in the
    order in which they first occur, and what was known stays in front when more keys
    come. -/

namespace CatalogLint

/-- A store of keys in which the list and the set hold the same keys, none of them twice. -/
structure KnownKeys where
  store : KeyStore
  agrees : store.Agrees

namespace KnownKeys

/-- No keys. -/
def empty : KnownKeys := ⟨.empty, KeyStore.agrees_empty⟩

/-- The known keys, in their order. -/
def keys (known : KnownKeys) : List String :=
  known.store.ordered

/-- The key is known. -/
def contains (known : KnownKeys) (key : String) : Bool :=
  known.store.contains key

/-- How many keys are known. -/
def size (known : KnownKeys) : Nat :=
  known.store.size

/-- The known keys with those of a list. -/
def extend (known : KnownKeys) (keys : List String) : KnownKeys :=
  ⟨known.store.extend keys, known.agrees.extend keys⟩

/-- The keys of a list. -/
def ofList (keys : List String) : KnownKeys :=
  empty.extend keys

/-- What the set says is what the list has. -/
theorem contains_eq_decide_mem (known : KnownKeys) (key : String) :
    known.contains key = decide (key ∈ known.keys) := by
  rw [Bool.eq_iff_iff, decide_eq_true_iff]
  exact known.agrees.contains_iff key

/-- No key is known twice. -/
theorem nodup (known : KnownKeys) : known.keys.Nodup :=
  known.agrees.nodup

end KnownKeys

end CatalogLint
