import CatalogLint.FileSystem
import Mathlib.Data.List.Nodup

/-! # Well-formed file trees

    A folder lists its entries, and a tree is well formed if the entries of each folder have
    names of their own that a path can lead through.  Then an entry is what its name leads to
    (`lookup_eq_some_iff_mem`), and names lead on from where a path has led
    (`foldlM_step_of_descend?`). -/

namespace CatalogLint

/-- A name that an entry of a folder can have: it is not empty, it stands neither for the
    folder itself nor for the one above, and it holds no slash. -/
structure IsEntryName (name : String) : Prop where
  ne_empty : name ≠ ""
  ne_dot : name ≠ "."
  ne_dots : name ≠ ".."
  slash_notMem : '/' ∉ name.toList

instance (name : String) : Decidable (IsEntryName name) :=
  decidable_of_iff (name ≠ "" ∧ name ≠ "." ∧ name ≠ ".." ∧ '/' ∉ name.toList)
    ⟨fun h => ⟨h.1, h.2.1, h.2.2.1, h.2.2.2⟩,
      fun h => ⟨h.ne_empty, h.ne_dot, h.ne_dots, h.slash_notMem⟩⟩

/-- The name of an entry is a component wherever it stands. -/
theorem IsEntryName.counts {name : String} (h : IsEntryName name) : Path.counts name = true := by
  rw [Path.counts, Bool.and_eq_true, bne_iff_ne, bne_iff_ne]
  exact ⟨h.ne_empty, h.ne_dot⟩

namespace FileTree

/-- The entries of every folder have proper names, no two of them the same one. -/
inductive WellFormed : FileTree → Prop where
  | file (bytes : ByteArray) : WellFormed (.file bytes)
  | folder {entries : List (String × FileTree)}
      (names : ∀ entry ∈ entries, IsEntryName entry.1)
      (distinct : (entries.map Prod.fst).Nodup)
      (trees : ∀ entry ∈ entries, WellFormed entry.2) : WellFormed (.folder entries)
  | special : WellFormed .special

variable {tree found : FileTree} {names : List String}

/-! ## Following names -/

/-- An entry is what its name leads to, if no other one has the name. -/
theorem lookup_eq_some_iff_mem {entries : List (String × FileTree)}
    (h : (entries.map Prod.fst).Nodup) {name : String} :
    entries.lookup name = some tree ↔ (name, tree) ∈ entries := by
  induction entries with
  | nil => exact iff_of_false nofun List.not_mem_nil
  | cons entry rest ih =>
      obtain ⟨other, own⟩ := entry
      rw [List.map_cons, List.nodup_cons] at h
      rw [List.lookup_cons, List.mem_cons, Prod.mk.injEq]
      by_cases hname : name = other
      · have hrest : (other, tree) ∉ rest :=
          fun hmem => h.1 (List.mem_map.mpr ⟨_, hmem, rfl⟩)
        rw [hname, beq_self_eq_true]
        simp only [Option.some.injEq, true_and]
        exact eq_comm.trans (or_iff_left hrest).symm
      · rw [beq_eq_false_iff_ne.mpr hname]
        simp only [hname, false_and, false_or]
        exact ih h.2

/-- Names lead where the first of them and then the others lead. -/
theorem descend?_append (tree : FileTree) (first second : List String) :
    tree.descend? (first ++ second) = (tree.descend? first).bind (·.descend? second) := by
  induction first generalizing tree with
  | nil => rfl
  | cons name rest ih =>
      rw [List.cons_append, descend?, descend?]
      cases tree.entries.lookup name with
      | none => rfl
      | some inner => exact ih inner

/-- What the first name leads to is an entry, and the others lead on from there. -/
theorem descend?_cons_eq_some_iff {entries : List (String × FileTree)}
    (h : (entries.map Prod.fst).Nodup) {name : String} :
    (folder entries).descend? (name :: names) = some found
      ↔ ∃ inner, (name, inner) ∈ entries ∧ inner.descend? names = some found := by
  rw [descend?, Option.bind_eq_some_iff]
  exact exists_congr fun inner => and_congr_left fun _ => lookup_eq_some_iff_mem h

/-- The name of an entry leads to it, and the others lead on from there. -/
theorem descend?_cons_of_mem {entries : List (String × FileTree)}
    (h : (entries.map Prod.fst).Nodup) {name : String} (hmem : (name, tree) ∈ entries) :
    (folder entries).descend? (name :: names) = tree.descend? names := by
  have hlookup : (folder entries).entries.lookup name = some tree :=
    (lookup_eq_some_iff_mem h).mpr hmem
  rw [descend?, hlookup, Option.bind_some]

/-- Names that lead somewhere in a well-formed tree are names of entries. -/
theorem WellFormed.isEntryName_of_descend? (h : tree.WellFormed)
    (hfound : tree.descend? names = some found) : ∀ name ∈ names, IsEntryName name := by
  induction names generalizing tree with
  | nil => exact nofun
  | cons name rest ih =>
      cases h with
      | file bytes => exact nomatch hfound
      | special => exact nomatch hfound
      | folder hnames hdistinct htrees =>
          obtain ⟨inner, hmem, hinner⟩ := (descend?_cons_eq_some_iff hdistinct).mp hfound
          rw [List.forall_mem_cons]
          exact ⟨hnames _ hmem, ih (htrees _ hmem) hinner⟩

end FileTree

namespace FileSystem

open FileTree

variable {files : FileSystem} {place : Place} {tree found : FileTree} {names : List String}

/-- Names lead on from a place to what they lead to in the tree that stands there. -/
theorem at?_append (hplace : files.at? place = some tree) (names : List String) :
    files.at? (names.reverse ++ place) = tree.descend? names := by
  rw [at?, List.reverse_append, List.reverse_reverse, descend?_append]
  rw [at?] at hplace
  rw [hplace, Option.bind_some]

/-- The name of an entry is a step to it. -/
theorem step_of_lookup {name : String} {inner : FileTree} (hplace : files.at? place = some tree)
    (hname : IsEntryName name) (hlookup : tree.entries.lookup name = some inner) :
    files.step place name = .ok (name :: place) := by
  cases tree with
  | file bytes => exact nomatch hlookup
  | special => exact nomatch hlookup
  | folder entries =>
      have hsome : (entries.lookup name).isSome = true := Option.isSome_of_eq_some hlookup
      rw [step, hplace]
      simp only [hname.counts, Bool.not_true, Bool.false_eq_true, if_false, hname.ne_dots, hsome,
        if_true]

/-- Names that lead somewhere from a place are steps that can be taken from it. -/
theorem foldlM_step_of_descend? (hplace : files.at? place = some tree)
    (hnames : ∀ name ∈ names, IsEntryName name) (hfound : tree.descend? names = some found) :
    names.foldlM files.step place = .ok (names.reverse ++ place) := by
  induction names generalizing place tree with
  | nil => rfl
  | cons name rest ih =>
      obtain ⟨hname, hrest⟩ := List.forall_mem_cons.mp hnames
      rw [descend?, Option.bind_eq_some_iff] at hfound
      obtain ⟨inner, hlookup, hinner⟩ := hfound
      have hat : files.at? (name :: place) = some inner := by
        have happend := at?_append hplace [name]
        rw [descend?, hlookup] at happend
        exact happend
      rw [List.foldlM_cons, step_of_lookup hplace hname hlookup, List.reverse_cons,
        List.append_assoc]
      exact ih hat hrest hinner

end FileSystem

end CatalogLint
