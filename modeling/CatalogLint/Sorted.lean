/-! # Sorted maps and sets of strings

    Maps and sets that are listed in the order of their keys.  The order is part of
    the type, so that whoever walks one meets the keys in strictly increasing order,
    by code point, and none of them twice. -/

namespace CatalogLint

/-! ## Maps -/

/-- A map from strings, listed in the order of its keys. -/
structure SortedMap (α : Type) where
  entries : List (String × α)
  sorted : (entries.map Prod.fst).Pairwise (· < ·)

namespace SortedMap

variable {α : Type}

/-- The map without entries. -/
def empty : SortedMap α := ⟨[], List.Pairwise.nil⟩

/-- The entries with one more at its place; an entry of the same key is replaced. -/
def insertEntry (key : String) (value : α) : List (String × α) → List (String × α)
  | [] => [(key, value)]
  | (k, v) :: rest =>
      if key < k then (key, value) :: (k, v) :: rest
      else if key = k then (key, value) :: rest
      else (k, v) :: insertEntry key value rest

/-- The keys after an entry has been set are its key and those that were there. -/
theorem mem_keys_insertEntry {key other : String} {value : α} {entries : List (String × α)} :
    other ∈ (insertEntry key value entries).map Prod.fst
      ↔ other = key ∨ other ∈ entries.map Prod.fst := by
  induction entries with
  | nil => simp [insertEntry]
  | cons entry rest ih =>
      obtain ⟨first, own⟩ := entry
      rw [insertEntry]
      split
      · simp
      · split
        · rename_i heq
          subst heq
          simp
        · rw [List.map_cons, List.mem_cons, ih, List.map_cons, List.mem_cons, or_left_comm]

/-- The entry goes to its place in the order. -/
theorem sorted_insertEntry (key : String) (value : α) {entries : List (String × α)}
    (h : (entries.map Prod.fst).Pairwise (· < ·)) :
    ((insertEntry key value entries).map Prod.fst).Pairwise (· < ·) := by
  induction entries with
  | nil => simp [insertEntry]
  | cons entry rest ih =>
      obtain ⟨k, v⟩ := entry
      simp only [List.map_cons, List.pairwise_cons] at h
      unfold insertEntry
      split
      · rename_i hlt
        simp only [List.map_cons, List.pairwise_cons, List.mem_cons]
        refine ⟨?_, h⟩
        rintro k' (rfl | hk')
        · exact hlt
        · exact String.lt_trans hlt (h.1 k' hk')
      · rename_i hnlt
        split
        · rename_i heq
          subst heq
          simpa using h
        · rename_i hne
          simp only [List.map_cons, List.pairwise_cons]
          refine ⟨?_, ih h.2⟩
          intro k' hk'
          rcases mem_keys_insertEntry.mp hk' with rfl | hk'
          · rcases String.le_total k' k with hle | hle
            · exact absurd (String.le_antisymm hle (String.not_lt.1 hnlt)) hne
            · exact String.not_le.1 fun hge => hne (String.le_antisymm hge hle)
          · exact h.1 k' hk'

/-- The map with one more entry; an entry of the same key is replaced. -/
def insert (map : SortedMap α) (key : String) (value : α) : SortedMap α :=
  ⟨insertEntry key value map.entries, sorted_insertEntry key value map.sorted⟩

/-- The map of a list of entries; of several with one key the last counts. -/
def ofList (entries : List (String × α)) : SortedMap α :=
  entries.foldl (fun map entry => map.insert entry.1 entry.2) empty

/-- The value of a key. -/
def get? (map : SortedMap α) (key : String) : Option α :=
  map.entries.lookup key

/-- The keys, in order. -/
def keys (map : SortedMap α) : List String :=
  map.entries.map Prod.fst

end SortedMap

/-! ## Sets -/

/-- A set of strings, listed in order. -/
structure SortedSet where
  members : SortedMap Unit

namespace SortedSet

/-- The set without members. -/
def empty : SortedSet := ⟨.empty⟩

/-- The set with one more member. -/
def insert (set : SortedSet) (member : String) : SortedSet :=
  ⟨set.members.insert member ()⟩

/-- The set of the members of a list. -/
def ofList (members : List String) : SortedSet :=
  members.foldl insert empty

/-- The members, in order. -/
def toList (set : SortedSet) : List String :=
  set.members.keys

/-- The string is a member. -/
def contains (set : SortedSet) (member : String) : Bool :=
  set.toList.contains member

/-- No member is listed twice. -/
theorem nodup_toList (set : SortedSet) : set.toList.Nodup := by
  refine List.Pairwise.imp ?_ set.members.sorted
  rintro first _ hlt rfl
  exact String.lt_irrefl first hlt

/-- A set with one more member has that member, and those it had. -/
theorem contains_insert (set : SortedSet) (member other : String) :
    (set.insert member).contains other = (other == member || set.contains other) := by
  rw [Bool.eq_iff_iff, Bool.or_eq_true, beq_iff_eq, contains, contains, List.contains_iff_mem,
    List.contains_iff_mem]
  exact SortedMap.mem_keys_insertEntry

end SortedSet

end CatalogLint
