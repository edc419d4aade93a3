import CatalogLint.Discovery
import CatalogLint.Proofs.FileTree
import CatalogLint.Proofs.Path
import Mathlib.Data.List.Nodup
import Mathlib.Data.String.Basic

/-! # The files of a directory

    A walk through a folder reaches a file if no directory on the way to it is left out, and
    none at all is entered unless the walk is recursive (`Reached`).  By induction on the names
    that lead to a file, the walk lists exactly the files that it reaches (`mem_filesIn_iff`);
    by induction on the tree it lists none of them twice (`nodup_filesUnder`).  Sorted by
    names, the list is strictly increasing (`pairwise_filesWith`), and so are the paths, since
    components are compared like the names that they hold.  What is found depends on the tree
    of the directory alone, not on where the directory is or what its name is
    (`files_are_the_matching_ones_in_component_order`). -/

namespace CatalogLint

open FileTree

variable {recursive : Bool} {extensions names : List String} {entries : List (String × FileTree)}
  {tree : FileTree} {name : String} {bytes : ByteArray}

namespace FileTree

/-! ## What a walk reaches -/

/-- Names lead to a file that a walk reaches: it is an entry of the folder itself unless the
    walk is recursive, and no directory on the way to it is one that is never looked at. -/
structure Reached (recursive : Bool) (tree : FileTree) (names : List String)
    (bytes : ByteArray) : Prop where
  leads : tree.descend? names = some (.file bytes)
  direct : recursive = true ∨ names.length = 1
  looked : ∀ dir ∈ names.dropLast, dir ∉ [".git", "node_modules", "target"]

/-- There is a name on the way to a file in a folder. -/
theorem Reached.ne_nil (h : Reached recursive (.folder entries) names bytes) : names ≠ [] := by
  rintro rfl
  exact nomatch h.leads

/-- The files of a folder are those under its entries, one entry after the other. -/
theorem filesIn_eq_flatMap (recursive : Bool) (entries : List (String × FileTree)) :
    filesIn recursive entries
      = entries.flatMap fun entry => filesUnder recursive entry.1 entry.2 := by
  induction entries with
  | nil => rfl
  | cons entry rest ih => rw [filesIn, ih, List.flatMap_cons]

/-- A file is listed by its own name. -/
theorem mem_filesUnder_file {own : ByteArray} :
    (names, bytes) ∈ filesUnder recursive name (.file own) ↔ names = [name] ∧ bytes = own := by
  rw [filesUnder, List.mem_singleton, Prod.mk.injEq]

/-- The files of a directory that is entered are listed by its name and then theirs. -/
theorem mem_filesUnder_folder :
    (names, bytes) ∈ filesUnder recursive name (.folder entries)
      ↔ recursive = true ∧ name ∉ skippedDirs
        ∧ ∃ rest, names = name :: rest ∧ (rest, bytes) ∈ filesIn recursive entries := by
  rw [filesUnder]
  by_cases hentered : recursive = true ∧ name ∉ skippedDirs
  · rw [if_pos (by simpa using hentered), List.mem_map]
    constructor
    · rintro ⟨⟨rest, own⟩, hmem, heq⟩
      obtain ⟨rfl, rfl⟩ := Prod.mk.inj heq
      exact ⟨hentered.1, hentered.2, rest, rfl, hmem⟩
    · rintro ⟨-, -, rest, rfl, hmem⟩
      exact ⟨(rest, bytes), hmem, rfl⟩
  · rw [if_neg (by simpa using hentered)]
    exact iff_of_false List.not_mem_nil fun h => hentered ⟨h.1, h.2.1⟩

/-- The names under a directory that is entered are its own name and then those of its files. -/
theorem map_fst_filesUnder_folder :
    (filesUnder recursive name (.folder entries)).map Prod.fst
      = if recursive && !skippedDirs.contains name then
          ((filesIn recursive entries).map Prod.fst).map (name :: ·)
        else [] := by
  rw [filesUnder]
  split
  · rw [List.map_map, List.map_map]
    rfl
  · rfl

/-- What is listed under a name begins with it. -/
theorem exists_cons_of_mem_filesUnder (h : (names, bytes) ∈ filesUnder recursive name tree) :
    ∃ rest, names = name :: rest := by
  cases tree with
  | file own => exact ⟨[], (mem_filesUnder_file.mp h).1⟩
  | folder entries =>
      obtain ⟨-, -, rest, hnames, -⟩ := mem_filesUnder_folder.mp h
      exact ⟨rest, hnames⟩
  | special => exact absurd h List.not_mem_nil

/-- An entry that is a file is reached by its own name and by no others behind it. -/
theorem reached_file_iff {own : ByteArray} (hdistinct : (entries.map Prod.fst).Nodup)
    (hmem : (name, .file own) ∈ entries) :
    Reached recursive (.folder entries) (name :: names) bytes ↔ names = [] ∧ bytes = own := by
  constructor
  · intro hreached
    have hleads := hreached.leads
    rw [descend?_cons_of_mem hdistinct hmem] at hleads
    cases names with
    | nil => exact ⟨rfl, (FileTree.file.inj (Option.some.inj hleads)).symm⟩
    | cons second rest => exact nomatch hleads
  · rintro ⟨rfl, rfl⟩
    exact ⟨descend?_cons_of_mem hdistinct hmem, Or.inr rfl, nofun⟩

/-- The files of an entry that is a directory are reached through it if it is entered. -/
theorem reached_folder_iff {inside : List (String × FileTree)}
    (hdistinct : (entries.map Prod.fst).Nodup) (hmem : (name, .folder inside) ∈ entries) :
    Reached recursive (.folder entries) (name :: names) bytes
      ↔ recursive = true ∧ name ∉ skippedDirs
        ∧ Reached recursive (.folder inside) names bytes := by
  constructor
  · intro hreached
    have hleads := hreached.leads
    rw [descend?_cons_of_mem hdistinct hmem] at hleads
    have hne : names ≠ [] := by
      rintro rfl
      exact nomatch hleads
    have hrecursive : recursive = true := by
      refine hreached.direct.resolve_right fun hone => hne ?_
      exact List.eq_nil_of_length_eq_zero (Nat.succ.inj hone)
    have hlooked := hreached.looked
    rw [List.dropLast_cons_of_ne_nil hne, List.forall_mem_cons] at hlooked
    exact ⟨hrecursive, hlooked.1, hleads, Or.inl hrecursive, hlooked.2⟩
  · rintro ⟨hrecursive, hname, hreached⟩
    refine ⟨(descend?_cons_of_mem hdistinct hmem).trans hreached.leads, Or.inl hrecursive, ?_⟩
    rw [List.dropLast_cons_of_ne_nil hreached.ne_nil]
    exact List.forall_mem_cons.mpr ⟨hname, hreached.looked⟩

/-- Nothing is reached through an entry that is neither a file nor a directory. -/
theorem not_reached_special (hdistinct : (entries.map Prod.fst).Nodup)
    (hmem : (name, .special) ∈ entries) :
    ¬ Reached recursive (.folder entries) (name :: names) bytes := by
  intro hreached
  have hleads := hreached.leads
  rw [descend?_cons_of_mem hdistinct hmem] at hleads
  cases names with
  | nil => exact nomatch hleads
  | cons second rest => exact nomatch hleads

/-- **The walk lists exactly the files that it reaches.** -/
theorem mem_filesIn_iff (h : (folder entries).WellFormed) :
    (names, bytes) ∈ filesIn recursive entries
      ↔ Reached recursive (.folder entries) names bytes := by
  induction names generalizing entries with
  | nil =>
      refine iff_of_false (fun hmem => ?_) fun hreached => hreached.ne_nil rfl
      rw [filesIn_eq_flatMap, List.mem_flatMap] at hmem
      obtain ⟨entry, -, hmem⟩ := hmem
      obtain ⟨rest, hnil⟩ := exists_cons_of_mem_filesUnder hmem
      exact nomatch hnil
  | cons name rest ih =>
      cases h with | folder _ hdistinct htrees => ?_
      -- the entry of the first name decides, and behind a directory the other names do
      have hentry : ∀ inner, (name, inner) ∈ entries →
          ((name :: rest, bytes) ∈ filesUnder recursive name inner
            ↔ Reached recursive (.folder entries) (name :: rest) bytes) := by
        intro inner hmem
        cases inner with
        | file own =>
            rw [mem_filesUnder_file, reached_file_iff hdistinct hmem, List.cons.injEq]
            simp only [true_and]
        | folder inside =>
            rw [mem_filesUnder_folder, reached_folder_iff hdistinct hmem, ← ih (htrees _ hmem)]
            simp only [List.cons.injEq, true_and, exists_eq_left']
        | special => exact iff_of_false List.not_mem_nil (not_reached_special hdistinct hmem)
      rw [filesIn_eq_flatMap, List.mem_flatMap]
      constructor
      · rintro ⟨⟨other, inner⟩, hmem, hlisted⟩
        obtain ⟨more, hnames⟩ := exists_cons_of_mem_filesUnder hlisted
        obtain ⟨rfl, -⟩ := List.cons.inj hnames
        exact (hentry inner hmem).mp hlisted
      · intro hreached
        obtain ⟨inner, hmem, -⟩ := (descend?_cons_eq_some_iff hdistinct).mp hreached.leads
        exact ⟨_, hmem, (hentry inner hmem).mpr hreached⟩

/-- The files of entries with names of their own are different ones, if those of each entry
    are. -/
theorem nodup_filesIn_of_nodup_filesUnder (hdistinct : (entries.map Prod.fst).Nodup)
    (h : ∀ entry ∈ entries, ((filesUnder recursive entry.1 entry.2).map Prod.fst).Nodup) :
    ((filesIn recursive entries).map Prod.fst).Nodup := by
  rw [filesIn_eq_flatMap, List.map_flatMap, List.nodup_flatMap]
  refine ⟨h, (List.pairwise_map.mp hdistinct).imp fun hne names hfirst hsecond => hne ?_⟩
  obtain ⟨first, hfirstMem, hfirstNames⟩ := List.mem_map.mp hfirst
  obtain ⟨second, hsecondMem, hsecondNames⟩ := List.mem_map.mp hsecond
  obtain ⟨rest, hrest⟩ := exists_cons_of_mem_filesUnder hfirstMem
  obtain ⟨others, hothers⟩ := exists_cons_of_mem_filesUnder hsecondMem
  rw [← hfirstNames, hrest, hothers] at hsecondNames
  exact (List.cons.inj hsecondNames).1.symm

/-- No file under a name is listed twice. -/
theorem nodup_filesUnder (h : tree.WellFormed) (name : String) :
    ((filesUnder recursive name tree).map Prod.fst).Nodup := by
  induction h generalizing name with
  | file own => exact List.nodup_singleton [name]
  | special => exact List.nodup_nil
  | folder hnames hdistinct htrees ih =>
      have hin := nodup_filesIn_of_nodup_filesUnder hdistinct
        fun entry hentry => ih entry hentry entry.1
      rw [map_fst_filesUnder_folder]
      split
      · exact hin.map fun _ _ heq => (List.cons.inj heq).2
      · exact List.nodup_nil

/-- No file of a folder is listed twice. -/
theorem nodup_filesIn (h : (folder entries).WellFormed) :
    ((filesIn recursive entries).map Prod.fst).Nodup := by
  cases h with | folder _ hdistinct htrees => ?_
  exact nodup_filesIn_of_nodup_filesUnder hdistinct
    fun entry hentry => nodup_filesUnder (htrees entry hentry) entry.1

/-! ## The order of names -/

/-- Names are compared one after the other. -/
theorem namesLe_iff {first second : List String} :
    namesLe first second = true ↔ ¬ second < first := by
  induction first generalizing second with
  | nil => exact iff_of_true rfl (List.not_lt_nil second)
  | cons name rest ih =>
      cases second with
      | nil => exact iff_of_false nofun (not_not_intro (List.nil_lt_cons name rest))
      | cons other others =>
          rw [namesLe, Bool.or_eq_true, decide_eq_true_iff, Bool.and_eq_true, beq_iff_eq, ih]
          exact List.cons_le_cons_iff.symm

/-- Names that come before or are the same, but are not the same, come before. -/
theorem lt_of_namesLe_of_ne {first second : List String} (h : namesLe first second = true)
    (hne : first ≠ second) : first < second := by
  by_contra hlt
  exact hne (List.le_antisymm (namesLe_iff.mp h) hlt)

/-- The files that are found have names with one of the extensions. -/
theorem mem_filesWith_iff :
    (names, bytes) ∈ filesWith recursive extensions (.folder entries)
      ↔ (names, bytes) ∈ filesIn recursive entries
        ∧ ∃ name, names.getLast? = some name ∧ hasExtension extensions name = true := by
  rw [filesWith, (List.mergeSort_perm _ _).mem_iff, List.mem_filter, Option.any_eq_true]

/-- The files that are found are in the order of the names that lead to them. -/
theorem pairwise_filesWith (h : (folder entries).WellFormed) :
    (filesWith recursive extensions (.folder entries)).Pairwise
      fun first second => first.1 < second.1 := by
  have hnodup : ((filesWith recursive extensions (.folder entries)).map Prod.fst).Nodup := by
    refine ((List.mergeSort_perm _ _).map Prod.fst).nodup_iff.mpr ?_
    exact (nodup_filesIn h).sublist (List.filter_sublist.map Prod.fst)
  -- sorted by an order that allows for the same names twice, which do not occur
  have hsorted : (filesWith recursive extensions (.folder entries)).Pairwise
      fun first second => namesLe first.1 second.1 = true := by
    refine List.pairwise_mergeSort (fun a b c hab hbc => ?_) (fun a b => ?_) _
    · rw [namesLe_iff] at hab hbc ⊢
      exact List.le_trans hab hbc
    · rw [Bool.or_eq_true, namesLe_iff, namesLe_iff]
      exact List.le_total _ _
  exact (hsorted.and (List.pairwise_map.mp hnodup)).imp fun h => lt_of_namesLe_of_ne h.1 h.2

end FileTree

/-! ## Extensions -/

/-- A name has one of the extensions if what stands behind its last dot is one of them, but
    for the case of ASCII letters. -/
theorem hasExtension_iff :
    hasExtension extensions name = true
      ↔ ∃ extension wanted, Path.IsExtension name extension ∧ wanted ∈ extensions
        ∧ wanted.toList.map Char.toLower = extension.toList.map Char.toLower := by
  rw [hasExtension]
  split
  · rename_i extension hcut
    simp only [List.any_eq_true, beq_iff_eq]
    constructor
    · rintro ⟨wanted, hmem, hsame⟩
      exact ⟨extension, wanted, Path.cutName_snd_eq_some_iff.mp hcut, hmem, hsame⟩
    · rintro ⟨other, wanted, hother, hmem, hsame⟩
      have heq := hcut.symm.trans (Path.cutName_snd_eq_some_iff.mpr hother)
      rw [← Option.some.inj heq] at hsame
      exact ⟨wanted, hmem, hsame⟩
  · rename_i hcut
    refine iff_of_false nofun ?_
    rintro ⟨other, wanted, hother, -⟩
    exact nomatch hcut.symm.trans (Path.cutName_snd_eq_some_iff.mpr hother)

/-! ## The files of a pattern -/

/-- Names lead to a file that a pattern asks for: a walk reaches it, and the last of its names
    has one of the extensions, but for the case of ASCII letters. -/
structure Matches (recursive : Bool) (extensions : List String) (tree : FileTree)
    (names : List String) (bytes : ByteArray) : Prop
    extends Reached recursive tree names bytes where
  extended : ∃ name extension wanted, names.getLast? = some name
    ∧ Path.IsExtension name extension ∧ wanted ∈ extensions
    ∧ wanted.toList.map Char.toLower = extension.toList.map Char.toLower

/-- The files that are found are the ones asked for. -/
theorem mem_filesWith_iff_matches (h : (folder entries).WellFormed) :
    (names, bytes) ∈ filesWith recursive extensions (.folder entries)
      ↔ Matches recursive extensions (.folder entries) names bytes := by
  simp only [mem_filesWith_iff, mem_filesIn_iff h, hasExtension_iff]
  constructor
  · rintro ⟨hreached, name, hlast, extension, wanted, hextension⟩
    exact ⟨hreached, name, extension, wanted, hlast, hextension⟩
  · rintro ⟨hreached, name, extension, wanted, hlast, hextension⟩
    exact ⟨hreached, name, hlast, extension, wanted, hextension⟩

/-- The names that lead to a file of a folder are names of entries, and there is one. -/
theorem Matches.isEntryName (hmatches : Matches recursive extensions (.folder entries) names bytes)
    (h : (folder entries).WellFormed) : names ≠ [] ∧ ∀ name ∈ names, IsEntryName name :=
  ⟨hmatches.ne_nil, h.isEntryName_of_descend? hmatches.leads⟩

/-- The files of a directory that is there are those of its folder, below it. -/
theorem files_of_find? {system : FileSystem} {base : String}
    (h : system.find? base = some (.folder entries)) :
    (⟨base, recursive⟩ : DirPattern).files extensions system
      = .ok ((filesWith recursive extensions (.folder entries)).map fun file =>
        (Path.below base file.1, file.2)) := by
  rw [DirPattern.files, h]
  rfl

/-- **The files of a pattern are exactly those asked for, in the order of the components of
    their paths.**  For every folder, with or without the directories below it, and all
    extensions, there is one list of files, each with the names that lead to it: it holds what
    matches and nothing else.  Wherever the folder stands and however it is called, the files of
    the pattern are those of the list, their paths are strictly increasing, a path is among them
    if it is made of the components of the directory and names that match, and each of them
    leads to its file. -/
theorem files_are_the_matching_ones_in_component_order (h : (folder entries).WellFormed)
    (recursive : Bool) (extensions : List String) :
    ∃ found : List (List String × ByteArray),
      (∀ names bytes,
        (names, bytes) ∈ found ↔ Matches recursive extensions (.folder entries) names bytes)
      ∧ ∀ (system : FileSystem) (base : String), system.find? base = some (.folder entries) →
        ∃ listed, (⟨base, recursive⟩ : DirPattern).files extensions system = .ok listed
          ∧ listed = found.map (fun file => (Path.below base file.1, file.2))
          ∧ listed.Pairwise (fun first second => Path.sortKey first.1 < Path.sortKey second.1)
          ∧ (∀ path, (∃ file ∈ listed, Path.same file.1 path = true)
            ↔ ∃ names bytes, Matches recursive extensions (.folder entries) names bytes
              ∧ Path.components path
                = Path.components base ++ names.map Path.Component.name)
          ∧ ∀ file ∈ listed, system.find? file.1 = some (.file file.2) := by
  refine ⟨filesWith recursive extensions (.folder entries),
    fun names bytes => mem_filesWith_iff_matches h, fun system base hbase => ?_⟩
  have hne : base ≠ "" := (Path.find?_eq_some_iff.mp hbase).1
  have hfound : ∀ file ∈ filesWith recursive extensions (.folder entries),
      Matches recursive extensions (.folder entries) file.1 file.2 :=
    fun file hfile => (mem_filesWith_iff_matches h).mp hfile
  have hnames : ∀ file ∈ filesWith recursive extensions (.folder entries),
      file.1 ≠ [] ∧ ∀ name ∈ file.1, IsEntryName name :=
    fun file hfile => (hfound file hfile).isEntryName h
  refine ⟨_, files_of_find? hbase, rfl, ?_, fun path => ?_, ?_⟩
  · refine List.pairwise_map.mpr ((pairwise_filesWith h).imp_of_mem ?_)
    intro first second hfirst hsecond hlt
    exact Path.sortKey_below_lt hne (hnames first hfirst) (hnames second hsecond) hlt
  · simp only [List.mem_map, exists_exists_and_eq_and, Path.same, beq_iff_eq]
    constructor
    · rintro ⟨file, hfile, hsame⟩
      have hcomponents := Path.components_below hne (hnames file hfile).1 (hnames file hfile).2
      exact ⟨file.1, file.2, hfound file hfile, hsame.symm.trans hcomponents⟩
    · rintro ⟨names, bytes, hmatches, hpath⟩
      obtain ⟨hnil, hentries⟩ := hmatches.isEntryName h
      exact ⟨(names, bytes), (mem_filesWith_iff_matches h).mpr hmatches,
        (Path.components_below hne hnil hentries).trans hpath.symm⟩
  · rw [List.forall_mem_map]
    intro file hfile
    obtain ⟨hnil, hentries⟩ := hnames file hfile
    exact Path.find?_below hbase hnil hentries (hfound file hfile).leads

/-- Entries whose names are like those of directories that are left out, or like each other, and
    one that is no file for all its name. -/
def shelf : List (String × FileTree) :=
  [("a-b", .folder [("x.json", .file .empty)]),
    ("a", .folder [("x.JSON", .file .empty), ("target", .folder [("z.json", .file .empty)])]),
    (".json", .file .empty), ("target.json", .folder [("en.v2.json", .file .empty)]),
    ("y.json", .special)]

/-- The entries under a name that is never looked at. -/
def shelfSystem : FileSystem :=
  { root := .folder [("site", .folder [("node_modules", .folder shelf)])] }

/-- The entries have names of their own. -/
theorem wellFormed_shelf : (FileTree.folder shelf).WellFormed := by
  have hfile : ∀ name, IsEntryName name → (FileTree.folder [(name, .file .empty)]).WellFormed :=
    fun name hname => .folder (List.forall_mem_singleton.mpr hname) (List.nodup_singleton name)
      (List.forall_mem_singleton.mpr (.file .empty))
  refine .folder (by decide) (by decide) ?_
  simp only [shelf, List.forall_mem_cons]
  refine ⟨hfile _ (by decide), .folder (by decide) (by decide) ?_, .file _, hfile _ (by decide),
    .special, nofun⟩
  simp only [List.forall_mem_cons]
  exact ⟨.file _, hfile _ (by decide), nofun⟩

/-- A directory that is itself called like one that is left out: `a` comes before `a-b` in it,
    what stands in `target` is not found, and what is no file is not found either. -/
theorem files_of_a_directory_called_node_modules :
    (FileTree.folder shelf).WellFormed
    ∧ shelfSystem.find? "/site//node_modules/" = some (.folder shelf)
    ∧ ∃ listed,
      (⟨"/site//node_modules/", true⟩ : DirPattern).files ["Json"] shelfSystem = .ok listed
      ∧ listed.Pairwise (fun first second => Path.sortKey first.1 < Path.sortKey second.1)
      ∧ (∃ file ∈ listed, Path.same file.1 "/site/node_modules/a/x.JSON" = true)
      ∧ (∃ file ∈ listed, Path.same file.1 "/site/node_modules/a-b/x.json" = true)
      ∧ (¬ ∃ file ∈ listed, Path.same file.1 "/site/node_modules/a/target/z.json" = true)
      ∧ ¬ ∃ file ∈ listed, Path.same file.1 "/site/node_modules/y.json" = true := by
  have hbase : shelfSystem.find? "/site//node_modules/" = some (.folder shelf) := rfl
  obtain ⟨found, -, hfound⟩ :=
    files_are_the_matching_ones_in_component_order wellFormed_shelf true ["Json"]
  obtain ⟨listed, hlisted, -, hsorted, hmem, -⟩ := hfound _ _ hbase
  -- the names can be told from the components
  have hmatches : ∀ path names,
      Path.components path
        = Path.components "/site//node_modules/" ++ names.map Path.Component.name →
      (∃ file ∈ listed, Path.same file.1 path = true) →
      ∃ bytes, Matches true ["Json"] (.folder shelf) names bytes := by
    intro path names hpath hfile
    obtain ⟨others, bytes, hmatches, hothers⟩ := (hmem path).mp hfile
    have hnames := List.map_injective_iff.mpr (fun _ _ => Path.Component.name.inj)
      (List.append_cancel_left (hpath.symm.trans hothers))
    exact ⟨bytes, hnames ▸ hmatches⟩
  refine ⟨wellFormed_shelf, hbase, listed, hlisted, hsorted, (hmem _).mpr ?_, (hmem _).mpr ?_,
    fun htarget => ?_, fun hspecial => ?_⟩
  · refine ⟨["a", "x.JSON"], .empty, ⟨⟨rfl, Or.inl rfl, by decide⟩, ?_⟩, by decide +kernel⟩
    exact ⟨"x.JSON", "JSON", "Json", rfl, ⟨by decide, ['x'], by decide, rfl⟩, by decide, by decide⟩
  · refine ⟨["a-b", "x.json"], .empty, ⟨⟨rfl, Or.inl rfl, by decide⟩, ?_⟩, by decide +kernel⟩
    exact ⟨"x.json", "json", "Json", rfl, ⟨by decide, ['x'], by decide, rfl⟩, by decide, by decide⟩
  · obtain ⟨bytes, hfile⟩ := hmatches _ ["a", "target", "z.json"] (by decide +kernel) htarget
    exact hfile.looked "target" (by decide) (by decide)
  · obtain ⟨bytes, hfile⟩ := hmatches _ ["y.json"] (by decide +kernel) hspecial
    exact nomatch hfile.leads

end CatalogLint
