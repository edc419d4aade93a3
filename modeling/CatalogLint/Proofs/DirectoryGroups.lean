import CatalogLint.Discovery
import CatalogLint.Proofs.FirstOccurrences
import Mathlib.Data.List.Basic

/-! # Directory groups

    Items are split by their directory, and two spellings of one directory count as the
    same.  The groups are built item by item; what they come to is said without the
    building: one group for each directory, in the order in which the directories first
    occur, with all items of that directory (`groupByDirectory_eq_map_eraseDups`).

    * a statement about any two members of one group is a statement about any two items
      of one directory (`forall_groupByDirectory`);
    * the groups share the items out (`flatten_groupByDirectory_perm`), and no two of them
      are about one directory (`pairwise_groupByDirectory`);
    * how many groups there are does not depend on the order of the items
      (`length_groupByDirectory_of_perm`), and neither do the groups if the items of each
      directory keep their order (`groupByDirectory_perm_of_interleaved`). -/

namespace CatalogLint

variable {α : Type} {dirOf : α → String} {items : List α}

/-- Two paths are the same if they have the same components. -/
theorem Path.same_iff {first second : String} :
    Path.same first second = true ↔ Path.components first = Path.components second :=
  beq_iff_eq

/-! ## Directories by first occurrence -/

/-- The directories of items in the order in which they first occur, each in the spelling
    of its first occurrence. -/
def directories (dirOf : α → String) (items : List α) : List String :=
  items.foldl
    (fun dirs item =>
      if dirs.any (Path.same · (dirOf item)) then dirs else dirs ++ [dirOf item]) []

/-- One more item brings its directory, unless there is one already. -/
theorem directories_snoc (dirOf : α → String) (items : List α) (item : α) :
    directories dirOf (items ++ [item])
      = if (directories dirOf items).any (Path.same · (dirOf item)) then directories dirOf items
        else directories dirOf items ++ [dirOf item] := by
  rw [directories, List.foldl_append]
  rfl

/-- A directory has been met if its components have, in whatever spelling. -/
theorem any_same_iff {dirs : List String} {dir : String} :
    dirs.any (Path.same · dir) = true ↔ Path.components dir ∈ dirs.map Path.components := by
  rw [List.any_eq_true, List.mem_map]
  simp only [Path.same_iff]

/-- The components of the directories are those of the items, by first occurrence. -/
theorem map_components_directories (dirOf : α → String) (items : List α) :
    (directories dirOf items).map Path.components
      = (items.map fun item => Path.components (dirOf item)).eraseDups := by
  induction items using List.reverseRecOn with
  | nil => rfl
  | append_singleton items item ih =>
      have hmet : (directories dirOf items).any (Path.same · (dirOf item)) = true
          ↔ Path.components (dirOf item) ∈ items.map fun item => Path.components (dirOf item) := by
        rw [any_same_iff, ih, List.mem_eraseDups]
      rw [directories_snoc, List.map_append, List.map_cons, List.map_nil, eraseDups_concat]
      by_cases h : Path.components (dirOf item) ∈ items.map fun item => Path.components (dirOf item)
      · rw [if_pos (hmet.mpr h), if_pos h, ih]
      · rw [if_neg (fun hany => h (hmet.mp hany)), if_neg h, List.map_append, ih]
        rfl

/-- The directories are different from each other. -/
theorem pairwise_directories (dirOf : α → String) (items : List α) :
    (directories dirOf items).Pairwise fun first second =>
      Path.components first ≠ Path.components second := by
  have hnodup := nodup_eraseDups (items.map fun item => Path.components (dirOf item))
  rw [← map_components_directories] at hnodup
  exact List.pairwise_map.mp hnodup

/-! ## Groups -/

/-- One more item goes to the group of its directory, or starts a group at the end. -/
theorem addToGroups_map (dir : String) (item : α) (members : String → List α)
    {dirs : List String}
    (h : dirs.Pairwise fun first second => Path.components first ≠ Path.components second) :
    addToGroups dir item (dirs.map fun other => (other, members other))
      = if dirs.any (Path.same · dir) then
          dirs.map fun other =>
            (other, if Path.same other dir then members other ++ [item] else members other)
        else dirs.map (fun other => (other, members other)) ++ [(dir, [item])] := by
  induction dirs with
  | nil => rfl
  | cons first rest ih =>
      obtain ⟨hfirst, hrest⟩ := List.pairwise_cons.mp h
      rw [List.map_cons, addToGroups, List.any_cons]
      by_cases hsame : Path.same first dir = true
      · -- the other directories differ from the first one, so the item does not go there
        have hothers : rest.map (fun other => (other, members other))
            = rest.map fun other =>
              (other, if Path.same other dir then members other ++ [item] else members other) := by
          refine List.map_congr_left ?_
          intro other hother
          have hne : ¬ Path.same other dir = true := by
            intro hdir
            exact hfirst other hother
              ((Path.same_iff.mp hsame).trans (Path.same_iff.mp hdir).symm)
          rw [if_neg hne]
        rw [if_pos hsame, hsame, Bool.true_or, if_pos rfl, List.map_cons, if_pos hsame, hothers]
      · rw [if_neg hsame, ih hrest, Bool.eq_false_iff.mpr hsame, Bool.false_or]
        split
        · rw [List.map_cons, if_neg hsame]
        · rw [List.cons_append]

/-- The groups that have been built from the items so far: one for each directory, with
    the items of that directory. -/
theorem foldl_addToGroups (dirOf : α → String) (items : List α) :
    items.foldl (fun groups item => addToGroups (dirOf item) item groups) []
      = (directories dirOf items).map fun dir =>
        (dir, items.filter fun item => Path.same dir (dirOf item)) := by
  induction items using List.reverseRecOn with
  | nil => rfl
  | append_singleton items item ih =>
      rw [List.foldl_append, List.foldl_cons, List.foldl_nil, ih,
        addToGroups_map _ _ _ (pairwise_directories dirOf items), directories_snoc]
      split
      · refine List.map_congr_left ?_
        intro dir _
        rw [List.filter_append, List.filter_cons, List.filter_nil]
        split
        · rfl
        · rw [List.append_nil]
      · rename_i hnew
        rw [any_same_iff] at hnew
        rw [List.map_append]
        congr 1
        · refine List.map_congr_left ?_
          intro dir hdir
          have hne : ¬ Path.same dir (dirOf item) = true := fun h =>
            hnew (Path.same_iff.mp h ▸ List.mem_map_of_mem hdir)
          rw [List.filter_append, List.filter_cons, List.filter_nil, if_neg hne, List.append_nil]
        · -- the directory is new, so no earlier item is in it
          have hnone : items.filter (fun other => Path.same (dirOf item) (dirOf other)) = [] := by
            refine List.filter_eq_nil_iff.mpr ?_
            intro other hother hsame
            rw [map_components_directories, List.mem_eraseDups, Path.same_iff.mp hsame] at hnew
            exact hnew (List.mem_map_of_mem hother)
          rw [List.map_cons, List.map_nil, List.filter_append, hnone, List.filter_cons,
            List.filter_nil, if_pos (Path.same_iff.mpr rfl), List.nil_append]

/-- **Directory groups.**  There is one group for each directory, in the order in which the
    directories first occur, and it holds the items of that directory in their order. -/
theorem groupByDirectory_eq_map_eraseDups (dirOf : α → String) (items : List α) :
    groupByDirectory dirOf items
      = (items.map fun item => Path.components (dirOf item)).eraseDups.map fun dir =>
        items.filter fun item => Path.components (dirOf item) = dir := by
  rw [groupByDirectory, foldl_addToGroups, ← map_components_directories, List.map_map,
    List.map_map]
  refine List.map_congr_left fun dir _ => List.filter_congr fun item _ => ?_
  rw [Bool.eq_iff_iff, Path.same_iff, decide_eq_true_iff]
  exact eq_comm

/-- The members of a group are among the items. -/
theorem mem_of_mem_groupByDirectory {group : List α} {item : α}
    (hgroup : group ∈ groupByDirectory dirOf items) (hitem : item ∈ group) : item ∈ items := by
  rw [groupByDirectory_eq_map_eraseDups] at hgroup
  obtain ⟨dir, -, rfl⟩ := List.mem_map.mp hgroup
  exact (List.mem_filter.mp hitem).1

/-- What holds of any two members of each group holds of any two items of one directory,
    and the other way round. -/
theorem forall_groupByDirectory {P : α → α → Prop} :
    (∀ group ∈ groupByDirectory dirOf items, ∀ first ∈ group, ∀ second ∈ group, P first second)
      ↔ ∀ first ∈ items, ∀ second ∈ items,
        Path.components (dirOf first) = Path.components (dirOf second) → P first second := by
  rw [groupByDirectory_eq_map_eraseDups]
  constructor
  · intro h first hfirst second hsecond hsame
    have hdir := List.mem_eraseDups.mpr
      (List.mem_map_of_mem (f := fun item => Path.components (dirOf item)) hfirst)
    refine h _ (List.mem_map_of_mem hdir) first ?_ second ?_
    · exact List.mem_filter.mpr ⟨hfirst, decide_eq_true rfl⟩
    · exact List.mem_filter.mpr ⟨hsecond, decide_eq_true hsame.symm⟩
  · intro h group hgroup first hfirst second hsecond
    obtain ⟨dir, -, rfl⟩ := List.mem_map.mp hgroup
    obtain ⟨hfirst, hfirstDir⟩ := List.mem_filter.mp hfirst
    obtain ⟨hsecond, hsecondDir⟩ := List.mem_filter.mp hsecond
    exact h first hfirst second hsecond
      ((of_decide_eq_true hfirstDir).trans (of_decide_eq_true hsecondDir).symm)

/-! ## The items are shared out -/

/-- The items of several directories are those that are in one of them, directory by
    directory. -/
theorem flatMap_filter_perm {dirs : List (List Path.Component)} (hnodup : dirs.Nodup)
    (hmem : ∀ item ∈ items, Path.components (dirOf item) ∈ dirs) :
    (dirs.flatMap fun dir => items.filter fun item => Path.components (dirOf item) = dir).Perm
      items := by
  induction dirs generalizing items with
  | nil =>
      rw [List.eq_nil_iff_forall_not_mem.mpr fun item h => nomatch hmem item h]
      exact List.Perm.nil
  | cons dir rest ih =>
      obtain ⟨hdir, hrest⟩ := List.nodup_cons.mp hnodup
      -- the items of the other directories are found among those outside of this one
      have houtside : (rest.flatMap fun other =>
            items.filter fun item => Path.components (dirOf item) = other)
          = rest.flatMap fun other =>
            (items.filter fun item => ¬ Path.components (dirOf item) = dir).filter fun item =>
              Path.components (dirOf item) = other := by
        refine List.flatMap_congr fun other hother => ?_
        rw [List.filter_filter]
        refine List.filter_congr fun item _ => ?_
        rw [Bool.eq_iff_iff, Bool.and_eq_true, decide_eq_true_iff, decide_eq_true_iff]
        constructor
        · rintro rfl
          exact ⟨rfl, fun heq => hdir (heq ▸ hother)⟩
        · exact And.left
      have hothers := @ih (items.filter fun item => ¬ Path.components (dirOf item) = dir)
        hrest ?_
      · rw [List.flatMap_cons, houtside]
        refine (hothers.append_left _).trans ?_
        simp only [decide_not]
        exact List.filter_append_perm _ items
      · intro item hitem
        obtain ⟨hitem, hnot⟩ := List.mem_filter.mp hitem
        rw [decide_eq_true_iff] at hnot
        exact (List.mem_cons.mp (hmem item hitem)).resolve_left hnot

/-- **Every item is in one group.** -/
theorem flatten_groupByDirectory_perm (dirOf : α → String) (items : List α) :
    (groupByDirectory dirOf items).flatten.Perm items := by
  rw [groupByDirectory_eq_map_eraseDups, ← List.flatMap_def]
  refine flatMap_filter_perm (nodup_eraseDups _) fun item hitem => ?_
  exact List.mem_eraseDups.mpr (List.mem_map_of_mem hitem)

/-- A group has members. -/
theorem ne_nil_of_mem_groupByDirectory {group : List α}
    (h : group ∈ groupByDirectory dirOf items) : group ≠ [] := by
  rw [groupByDirectory_eq_map_eraseDups] at h
  obtain ⟨dir, hdir, rfl⟩ := List.mem_map.mp h
  obtain ⟨item, hitem, rfl⟩ := List.mem_map.mp (List.mem_eraseDups.mp hdir)
  exact List.ne_nil_of_mem (List.mem_filter.mpr ⟨hitem, decide_eq_true rfl⟩)

/-- The members of different groups are in different directories. -/
theorem pairwise_groupByDirectory (dirOf : α → String) (items : List α) :
    (groupByDirectory dirOf items).Pairwise fun first second =>
      ∀ a ∈ first, ∀ b ∈ second,
        Path.components (dirOf a) ≠ Path.components (dirOf b) := by
  rw [groupByDirectory_eq_map_eraseDups, List.pairwise_map]
  refine List.Pairwise.imp ?_ (nodup_eraseDups _)
  intro first second hne a ha b hb heq
  refine hne ?_
  have hfirst := of_decide_eq_true (List.mem_filter.mp ha).2
  have hsecond := of_decide_eq_true (List.mem_filter.mp hb).2
  rw [← hfirst, ← hsecond, heq]

/-! ## Other orders -/

/-- Items that are mixed in another way, but in each directory are in the same order, fall
    into the same groups. -/
theorem groupByDirectory_perm_of_interleaved {others : List α}
    (h : ∀ dir, (others.filter fun item => Path.components (dirOf item) = dir)
      = items.filter fun item => Path.components (dirOf item) = dir) :
    (groupByDirectory dirOf others).Perm (groupByDirectory dirOf items) := by
  rw [groupByDirectory_eq_map_eraseDups, groupByDirectory_eq_map_eraseDups]
  simp only [h]
  refine List.Perm.map _ ((List.perm_ext_iff_of_nodup (nodup_eraseDups _)
    (nodup_eraseDups _)).mpr fun dir => ?_)
  -- a directory occurs if it has items
  have hoccurs : ∀ files : List α,
      dir ∈ (files.map fun item => Path.components (dirOf item)).eraseDups
        ↔ (files.filter fun item => Path.components (dirOf item) = dir) ≠ [] := by
    intro files
    rw [List.mem_eraseDups, List.mem_map]
    constructor
    · rintro ⟨item, hitem, rfl⟩
      exact List.ne_nil_of_mem (List.mem_filter.mpr ⟨hitem, decide_eq_true rfl⟩)
    · intro hne
      obtain ⟨item, hmem⟩ := List.exists_mem_of_ne_nil _ hne
      obtain ⟨hitem, hdir⟩ := List.mem_filter.mp hmem
      exact ⟨item, hitem, of_decide_eq_true hdir⟩
  rw [hoccurs, hoccurs, h]

/-- The number of groups does not depend on the order of the items. -/
theorem length_groupByDirectory_of_perm {others : List α} (h : items.Perm others) :
    (groupByDirectory dirOf others).length = (groupByDirectory dirOf items).length := by
  rw [groupByDirectory_eq_map_eraseDups, groupByDirectory_eq_map_eraseDups, List.length_map,
    List.length_map]
  refine List.Perm.length_eq ((List.perm_ext_iff_of_nodup (nodup_eraseDups _)
    (nodup_eraseDups _)).mpr fun dir => ?_)
  rw [List.mem_eraseDups, List.mem_eraseDups]
  exact (h.map _).symm.mem_iff

end CatalogLint
