import CatalogLint.Proofs.Coherence

/-! # Directories are checked independently

    The check of coherence goes through the directory groups with one record, to which every
    group adds its findings.  What a group adds does not depend on what the record held
    before (`recordGroup_eq`), so the check of all groups is the checks of the
    groups one after the other (`recordAll_eq`).

    * the findings about one directory are one block, and without the catalogs of
      that directory the rest is the same (`checkAll_frame`);
    * catalogs that are mixed in another way give the same blocks in another order
      (`comparedGroups_perm_of_interleaved`). -/

namespace CatalogLint.Coherence

/-! ## The record -/

/-- What one group adds to a record: its findings at the end, and whether the group is
    coherent. -/
theorem recordGroup_eq (catalogs : List ParsedCatalog) (record : List Finding) :
    recordGroup catalogs record = (groupCoherent catalogs, record ++ checkGroup catalogs) := by
  cases catalogs with
  | nil =>
      rw [recordGroup, checkGroup, List.append_nil]
      rfl
  | cons reference others =>
      have hextended : others.foldl
            (fun record other => record ++ compareCatalogs reference other) record
          = record ++ checkGroup (reference :: others) := by
        rw [checkGroup]
        induction others generalizing record with
        | nil => exact (List.append_nil record).symm
        | cons other rest ih => rw [List.foldl_cons, ih, List.flatMap_cons, List.append_assoc]
      -- the verdict looks at the findings behind those of the record
      simp only [recordGroup, hextended, List.drop_left, groupCoherent]

/-- One more group adds what it adds alone, if there is something to compare. -/
theorem recordNext_eq (state : Bool × List Finding) (group : List ParsedCatalog) :
    recordNext state group
      = if 2 ≤ group.length then (state.1 && groupCoherent group, state.2 ++ checkGroup group)
        else state := by
  rw [recordNext, recordGroup_eq]
  by_cases h : group.length < 2
  · rw [if_pos h, if_neg (Nat.not_le.mpr h)]
  · rw [if_neg h, if_pos (Nat.not_lt.mp h)]

/-- The groups with something to compare add their findings one after the other. -/
theorem foldl_recordNext (groups : List (List ParsedCatalog)) (state : Bool × List Finding) :
    groups.foldl recordNext state
      = (state.1 && (groups.filter (2 ≤ ·.length)).all groupCoherent,
        state.2 ++ (groups.filter (2 ≤ ·.length)).flatMap checkGroup) := by
  induction groups generalizing state with
  | nil => rw [List.foldl_nil, List.filter_nil, List.all_nil, List.flatMap_nil, Bool.and_true,
      List.append_nil]
  | cons group rest ih =>
      rw [List.foldl_cons, ih, recordNext_eq, List.filter_cons]
      by_cases h : 2 ≤ group.length
      · rw [if_pos h, if_pos (decide_eq_true h), List.all_cons, List.flatMap_cons,
          Bool.and_assoc, List.append_assoc]
      · rw [if_neg h, if_neg (by simpa using h)]

/-- **The check of all groups** adds the findings about them to a record, and says whether
    all of them are coherent. -/
theorem recordAll_eq (catalogs : List ParsedCatalog) (record : List Finding) :
    recordAll catalogs record = (allCoherent catalogs, record ++ checkAll catalogs) := by
  rw [recordAll, foldl_recordNext, Bool.true_and]
  rfl

/-! ## Blocks -/

/-- The catalogs of a directory, in whatever way they spell it. -/
def inDirectory (dir : List Path.Component) (catalogs : List ParsedCatalog) :
    List ParsedCatalog :=
  catalogs.filter fun catalog => Path.components catalog.group = dir

/-- The catalogs of the other directories. -/
def outsideDirectory (dir : List Path.Component) (catalogs : List ParsedCatalog) :
    List ParsedCatalog :=
  catalogs.filter fun catalog => Path.components catalog.group ≠ dir

variable {catalogs others : List ParsedCatalog} {dir other : List Path.Component}

/-- The directories of catalogs, by first occurrence. -/
def directoriesOf (catalogs : List ParsedCatalog) : List (List Path.Component) :=
  (catalogs.map fun catalog => Path.components catalog.group).eraseDups

/-- A directory occurs if a catalog is in it. -/
theorem inDirectory_eq_nil (h : dir ∉ directoriesOf catalogs) : inDirectory dir catalogs = [] := by
  refine List.filter_eq_nil_iff.mpr fun catalog hmem heq => h ?_
  rw [← of_decide_eq_true heq]
  exact List.mem_eraseDups.mpr (List.mem_map_of_mem hmem)

/-- Another directory keeps its catalogs. -/
theorem inDirectory_outsideDirectory (h : other ≠ dir) :
    inDirectory other (outsideDirectory dir catalogs) = inDirectory other catalogs := by
  rw [inDirectory, outsideDirectory, List.filter_filter]
  refine List.filter_congr fun catalog _ => ?_
  rw [Bool.eq_iff_iff, Bool.and_eq_true, decide_eq_true_iff, decide_eq_true_iff]
  constructor
  · exact And.left
  · rintro rfl
    exact ⟨rfl, h⟩

/-- The other directories keep their order. -/
theorem directoriesOf_outsideDirectory :
    directoriesOf (outsideDirectory dir catalogs)
      = (directoriesOf catalogs).filter (· ≠ dir) := by
  rw [directoriesOf, directoriesOf, ← eraseDups_filter, List.filter_map]
  rfl

/-- The findings about all groups are those about the directories. -/
theorem checkAll_eq_flatMap (catalogs : List ParsedCatalog) :
    checkAll catalogs
      = (directoriesOf catalogs).flatMap fun dir => checkGroup (inDirectory dir catalogs) := by
  rw [checkAll_eq, groupByDirectory_eq_map_eraseDups, List.flatMap_map]
  rfl

/-- What is found in other directories does not change if a directory is left out. -/
theorem flatMap_outsideDirectory {dirs : List (List Path.Component)} (h : dir ∉ dirs) :
    (dirs.flatMap fun other => checkGroup (inDirectory other (outsideDirectory dir catalogs)))
      = dirs.flatMap fun other => checkGroup (inDirectory other catalogs) := by
  refine List.flatMap_congr fun other hother => ?_
  rw [inDirectory_outsideDirectory (ne_of_mem_of_not_mem hother h)]

/-- A directory that does not occur is left out without any change. -/
theorem filter_ne_eq_self {dirs : List (List Path.Component)} (h : dir ∉ dirs) :
    dirs.filter (· ≠ dir) = dirs :=
  List.filter_eq_self.mpr fun _ hother => decide_eq_true (ne_of_mem_of_not_mem hother h)

/-- **The findings about a directory are one block**, and the rest is what is found without
    the catalogs of that directory. -/
theorem checkAll_frame (dir : List Path.Component) (catalogs : List ParsedCatalog) :
    ∃ before after,
      checkAll catalogs = before ++ checkGroup (inDirectory dir catalogs) ++ after
      ∧ checkAll (outsideDirectory dir catalogs) = before ++ after := by
  have houtside : checkAll (outsideDirectory dir catalogs)
      = ((directoriesOf catalogs).filter (· ≠ dir)).flatMap fun other =>
        checkGroup (inDirectory other (outsideDirectory dir catalogs)) := by
    rw [checkAll_eq_flatMap, directoriesOf_outsideDirectory]
  by_cases hdir : dir ∈ directoriesOf catalogs
  · obtain ⟨first, rest, heq⟩ := List.append_of_mem hdir
    -- a directory is listed once, so it is neither before its place nor after it
    have hnodup : (first ++ dir :: rest).Nodup := heq ▸ nodup_eraseDups _
    have hothers : dir ∉ first ++ rest := (List.nodup_cons.mp (List.nodup_middle.mp hnodup)).1
    have hkept : (first ++ dir :: rest).filter (· ≠ dir) = first ++ rest := by
      rw [List.filter_append, List.filter_cons, if_neg (by simp), ← List.filter_append,
        filter_ne_eq_self hothers]
    refine ⟨first.flatMap fun dir => checkGroup (inDirectory dir catalogs),
      rest.flatMap fun dir => checkGroup (inDirectory dir catalogs), ?_, ?_⟩
    · rw [checkAll_eq_flatMap, heq, List.flatMap_append, List.flatMap_cons, List.append_assoc]
    · rw [houtside, heq, hkept, flatMap_outsideDirectory hothers, List.flatMap_append]
  · refine ⟨checkAll catalogs, [], ?_, ?_⟩
    · rw [inDirectory_eq_nil hdir, checkGroup, List.append_nil, List.append_nil]
    · rw [houtside, filter_ne_eq_self hdir, flatMap_outsideDirectory hdir,
        ← checkAll_eq_flatMap, List.append_nil]

/-- Catalogs that are mixed in another way, but in each directory are in the same order,
    fall into the same groups. -/
theorem comparedGroups_perm_of_interleaved
    (h : ∀ dir, inDirectory dir others = inDirectory dir catalogs) :
    (comparedGroups others).Perm (comparedGroups catalogs) :=
  (groupByDirectory_perm_of_interleaved h).filter _

/-- **Directories are checked independently.**  The groups are the catalogs of each
    directory in their order, and the directories come by first occurrence; no group is
    empty, no two are about one directory, and together they hold every catalog once.  The
    check of all groups puts behind what is on record what the check of each group with at
    least two members would report alone, one after the other, and it passes if each
    of those groups does alone.

    So if only the catalogs of one directory change, everything but the findings
    about it stays as it is; and if catalogs are mixed in another way, but in each
    directory are in the same order, the blocks of the directories change places and the
    verdict is the same. -/
theorem directories_are_checked_independently (catalogs : List ParsedCatalog) :
    let groups := groupByDirectory ParsedCatalog.group catalogs
    let compared := groups.filter (2 ≤ ·.length)
    -- the groups
    groups = ((catalogs.map fun catalog => Path.components catalog.group).eraseDups.map
        fun dir => catalogs.filter fun catalog => Path.components catalog.group = dir)
    ∧ (∀ group ∈ groups, group ≠ [])
    ∧ (groups.Pairwise fun first second => ∀ a ∈ first, ∀ b ∈ second,
        Path.components a.group ≠ Path.components b.group)
    ∧ groups.flatten.Perm catalogs
    -- the record and the verdict
    ∧ (∀ record, (recordAll catalogs record).2
        = record ++ compared.flatMap fun group => (recordGroup group []).2)
    ∧ (∀ record, (recordAll catalogs record).1 = true
        ↔ ∀ group ∈ compared, (recordGroup group []).1 = true)
    ∧ (∀ group record, recordGroup group record
        = ((recordGroup group []).1, record ++ (recordGroup group []).2))
    -- other catalogs in one directory
    ∧ (∀ dir others, outsideDirectory dir others = outsideDirectory dir catalogs →
        ∃ before after before' after',
          (recordAll catalogs []).2
              = before ++ (recordGroup (inDirectory dir catalogs) []).2 ++ after
          ∧ (recordAll others []).2
              = before' ++ (recordGroup (inDirectory dir others) []).2 ++ after'
          ∧ before ++ after = before' ++ after')
    -- the same catalogs, mixed in another way
    ∧ ∀ others, (∀ dir, inDirectory dir others = inDirectory dir catalogs) →
        (∃ blocks : List (List Finding), blocks.Perm (compared.map fun group => (recordGroup group []).2)
          ∧ (recordAll others []).2 = blocks.flatten)
        ∧ (recordAll others []).1 = (recordAll catalogs []).1 := by
  intro groups compared
  simp only [recordAll_eq, recordGroup_eq, List.nil_append]
  refine ⟨groupByDirectory_eq_map_eraseDups _ catalogs,
    fun group => ne_nil_of_mem_groupByDirectory, pairwise_groupByDirectory _ catalogs,
    flatten_groupByDirectory_perm _ catalogs, fun record => rfl, fun _ => List.all_eq_true,
    fun _ _ => trivial, ?_, ?_⟩
  · intro dir others hothers
    obtain ⟨before, after, hall, hrest⟩ := checkAll_frame dir catalogs
    obtain ⟨before', after', hall', hrest'⟩ := checkAll_frame dir others
    refine ⟨before, after, before', after', hall, hall', ?_⟩
    rw [← hrest, ← hrest', hothers]
  · intro others hothers
    have hperm := comparedGroups_perm_of_interleaved hothers
    exact ⟨⟨_, hperm.map checkGroup, List.flatMap_def⟩, hperm.all_eq⟩

/-- Two catalogs of one directory, spelled in two ways, and one of another directory between
    them.  The key that the French catalog lacks is found as well when there are more
    catalogs in the other directory, and the verdict is the same in another mix. -/
theorem directories_in_two_spellings :
    let catalog := fun (name dir : String) (keys : List String) =>
      ParsedCatalog.mk name name (dir ++ "/" ++ name) dir keys (keys.map fun key => (key, key))
    let english := catalog "en.json" "app/i18n" ["A", "B"]
    let french := catalog "fr.json" "app//i18n/." ["A"]
    let german := catalog "de.json" "lib" ["C"]
    let dutch := catalog "nl.json" "lib" ["D"]
    let finding := missingFinding english french "B"
    (recordAll [english, german, french] []).2 = [finding]
    ∧ (∃ before after, before ++ after = [finding]
      ∧ (recordAll [german, english, dutch, french] []).2
        = before ++ [missingFinding german dutch "C", extraFinding german dutch "D"] ++ after)
    ∧ (recordAll [english, french, german] []).1 = (recordAll [english, german, french] []).1 := by
  intro catalog english french german dutch finding
  let lib := Path.components "lib"
  have hfound : (recordAll [english, german, french] []).2 = [finding] := by decide +kernel
  obtain ⟨-, -, -, -, -, -, -, hchanged, hmixed⟩ :=
    directories_are_checked_independently [english, german, french]
  refine ⟨hfound, ?_, (hmixed [english, french, german] ?_).2⟩
  · obtain ⟨before, after, before', after', hall, hall', hrest⟩ :=
      hchanged lib [german, english, dutch, french] (by decide +kernel)
    have hgerman : (recordGroup (inDirectory lib [english, german, french]) []).2 = [] := by
      decide +kernel
    have hlib : (recordGroup (inDirectory lib [german, english, dutch, french]) []).2
        = [missingFinding german dutch "C", extraFinding german dutch "D"] := by
      decide +kernel
    rw [hfound, hgerman, List.append_nil] at hall
    rw [hlib] at hall'
    exact ⟨before', after', hrest.symm.trans hall.symm, hall'⟩
  · intro dir
    have happ : Path.components french.group = Path.components english.group := by decide +kernel
    have hlib : Path.components german.group ≠ Path.components english.group := by decide +kernel
    simp only [inDirectory, List.filter_cons, List.filter_nil, happ, decide_eq_true_eq]
    by_cases h : Path.components english.group = dir
    · have hgerman : Path.components german.group ≠ dir := h ▸ hlib
      simp only [h, hgerman, if_true, if_false]
    · simp only [h, if_false]

end CatalogLint.Coherence
