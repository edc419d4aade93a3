import CatalogLint.Proofs.Catalog.Keys
import CatalogLint.Proofs.DirectoryGroups
import CatalogLint.Proofs.Markup.Comparison
import CatalogLint.Proofs.Rules

/-! # Coherence does not depend on the reference

    A group of catalogs is checked by comparing each of them with the first one.  Two
    catalogs agree if they have the same keys, and for every key the same tags as often
    (`Agree`).  The comparison reports nothing exactly if its two catalogs agree
    (`compareCatalogs_eq_nil_iff`), and agreement is an equivalence, so catalogs that
    have never been compared agree as well: the verdict on a group is about all of its
    pairs (`checkGroup_eq_nil_iff`), whichever catalog comes first. -/

namespace CatalogLint.Coherence

open Markup

/-! ## Agreement of two catalogs -/

/-- Two catalogs have the same keys, and the values of a key have the same opening tags
    in some order. -/
structure Agree (first second : ParsedCatalog) : Prop where
  keys : ∀ key, key ∈ first.orderedKeys ↔ key ∈ second.orderedKeys
  markup : ∀ key expected actual, first.value? key = some expected →
    second.value? key = some actual → (openingTags expected).Perm (openingTags actual)

variable {first second third : ParsedCatalog}

/-- A catalog agrees with itself. -/
theorem Agree.refl (catalog : ParsedCatalog) : Agree catalog catalog := by
  refine ⟨fun _ => Iff.rfl, ?_⟩
  intro key expected actual hexpected hactual
  rw [hexpected] at hactual
  cases hactual
  exact List.Perm.refl _

/-- Agreement goes both ways. -/
theorem Agree.symm (h : Agree first second) : Agree second first :=
  ⟨fun key => (h.keys key).symm,
    fun key expected actual hexpected hactual =>
      (h.markup key actual expected hactual hexpected).symm⟩

/-- Agreement goes on from one catalog to the next: a key that the outer two have a value
    for is a key of the one between, which then has a value for it, too. -/
theorem Agree.trans (hfirst : first.KeysMatch) (hsecond : second.KeysMatch)
    (h : Agree first second) (h' : Agree second third) : Agree first third := by
  refine ⟨fun key => (h.keys key).trans (h'.keys key), ?_⟩
  intro key expected actual hexpected hactual
  have hkey : key ∈ second.orderedKeys := (h.keys key).mp (hfirst.mem_of_value hexpected)
  obtain ⟨value, hvalue⟩ := hsecond.value_of_mem hkey
  exact (h.markup key expected value hexpected hvalue).trans
    (h'.markup key value actual hvalue hactual)

/-! ## The comparison with the reference -/

/-- A catalog lacks nothing of the reference if it has all of its keys. -/
theorem missingKeys_eq_nil_iff (hsecond : second.KeysMatch) :
    missingKeys first second = []
      ↔ ∀ key ∈ first.orderedKeys, key ∈ second.orderedKeys := by
  rw [missingKeys, List.filter_eq_nil_iff]
  constructor
  · intro h key hkey
    refine (hsecond key).mpr ?_
    have := h key hkey
    rwa [Bool.not_eq_true', Bool.not_eq_false] at this
  · intro h key hkey
    rw [(hsecond key).mp (h key hkey)]
    exact Bool.false_ne_true

/-- The markup of a key does not differ if the values of the key have the same tags. -/
theorem markupDiffs_eq_nil_iff (first second : ParsedCatalog) (key : String) :
    markupDiffs first second key = []
      ↔ ∀ expected actual, first.value? key = some expected →
        second.value? key = some actual → (openingTags expected).Perm (openingTags actual) := by
  rw [markupDiffs]
  split
  · rename_i expected actual hexpected hactual
    rw [compare_eq_nil_iff]
    constructor
    · intro h expected' actual' hexpected' hactual'
      rw [hexpected] at hexpected'
      rw [hactual] at hactual'
      cases hexpected'
      cases hactual'
      exact h
    · intro h
      exact h expected actual hexpected hactual
  · rename_i hnone
    refine ⟨fun _ => ?_, fun _ => rfl⟩
    intro expected actual hexpected hactual
    exact absurd hactual (hnone expected actual hexpected)

/-- The comparison of two catalogs reports nothing exactly if they agree. -/
theorem compareCatalogs_eq_nil_iff (hfirst : first.KeysMatch) (hsecond : second.KeysMatch) :
    compareCatalogs first second = [] ↔ Agree first second := by
  rw [compareCatalogs, List.append_eq_nil_iff, List.append_eq_nil_iff, List.map_eq_nil_iff,
    List.map_eq_nil_iff, missingKeys_eq_nil_iff hsecond, missingKeys_eq_nil_iff hfirst,
    List.flatMap_eq_nil_iff]
  constructor
  · rintro ⟨⟨hmissing, hextra⟩, hmarkup⟩
    refine ⟨fun key => ⟨hmissing key, hextra key⟩, ?_⟩
    intro key expected actual hexpected
    have hdiffs := hmarkup key (hfirst.mem_of_value hexpected)
    exact (markupDiffs_eq_nil_iff first second key).mp (List.map_eq_nil_iff.mp hdiffs)
      expected actual hexpected
  · intro h
    refine ⟨⟨fun key => (h.keys key).mp, fun key => (h.keys key).mpr⟩, ?_⟩
    intro key _
    rw [List.map_eq_nil_iff, markupDiffs_eq_nil_iff]
    exact h.markup key

/-! ## Groups -/

/-- A group gives no finding exactly if any two of its catalogs agree. -/
theorem checkGroup_eq_nil_iff {catalogs : List ParsedCatalog}
    (h : ∀ catalog ∈ catalogs, catalog.KeysMatch) :
    checkGroup catalogs = []
      ↔ ∀ first ∈ catalogs, ∀ second ∈ catalogs, Agree first second := by
  cases catalogs with
  | nil => exact ⟨fun _ _ hmem => (nomatch hmem), fun _ => rfl⟩
  | cons reference others =>
      have href : reference.KeysMatch := h reference List.mem_cons_self
      rw [checkGroup, List.flatMap_eq_nil_iff]
      constructor
      · intro hnil
        -- every catalog of the group agrees with the reference, also the reference itself
        have hwith : ∀ catalog ∈ reference :: others, Agree reference catalog := by
          intro catalog hmem
          rcases List.mem_cons.mp hmem with rfl | hother
          · exact Agree.refl catalog
          · exact (compareCatalogs_eq_nil_iff href (h catalog hmem)).mp (hnil catalog hother)
        intro first hfirst second hsecond
        exact (hwith first hfirst).symm.trans (h first hfirst) href (hwith second hsecond)
      · intro hagree other hother
        have hmem : other ∈ reference :: others := List.mem_cons_of_mem reference hother
        exact (compareCatalogs_eq_nil_iff href (h other hmem)).mpr
          (hagree reference List.mem_cons_self other hmem)

/-- A group is coherent exactly if its check reports nothing, since all it can report is
    an error. -/
theorem groupCoherent_iff_eq_nil (catalogs : List ParsedCatalog) :
    groupCoherent catalogs = true ↔ checkGroup catalogs = [] := by
  rw [groupCoherent, Bool.not_eq_true', List.any_eq_false]
  constructor
  · intro h
    rw [List.eq_nil_iff_forall_not_mem]
    intro finding hmem
    refine h finding hmem ?_
    rw [Finding.isError, (of_mem_checkGroup hmem).1]
    rfl
  · intro h finding hmem
    rw [h] at hmem
    exact absurd hmem List.not_mem_nil

/-- With fewer than two catalogs there is nothing to compare. -/
theorem checkGroup_of_length_lt_two {catalogs : List ParsedCatalog} (h : catalogs.length < 2) :
    checkGroup catalogs = [] := by
  match catalogs with
  | [] => rfl
  | [_] => rfl
  | _ :: _ :: _ =>
      simp only [List.length_cons] at h
      omega

/-- Leaving out the groups with nothing to compare takes no finding away. -/
theorem checkAll_eq (catalogs : List ParsedCatalog) :
    checkAll catalogs = (groupByDirectory ParsedCatalog.group catalogs).flatMap checkGroup := by
  rw [checkAll, comparedGroups]
  induction groupByDirectory ParsedCatalog.group catalogs with
  | nil => rfl
  | cons group rest ih =>
      rw [List.filter_cons, List.flatMap_cons, ← ih]
      split
      · rfl
      · rename_i hshort
        rw [decide_eq_true_iff, Nat.not_le] at hshort
        rw [checkGroup_of_length_lt_two hshort, List.nil_append]

/-- The check of all groups reports nothing exactly if any two catalogs of one directory
    agree. -/
theorem checkAll_eq_nil_iff {catalogs : List ParsedCatalog}
    (h : ∀ catalog ∈ catalogs, catalog.KeysMatch) :
    checkAll catalogs = []
      ↔ ∀ first ∈ catalogs, ∀ second ∈ catalogs,
        Path.components first.group = Path.components second.group → Agree first second := by
  rw [checkAll_eq, List.flatMap_eq_nil_iff, ← forall_groupByDirectory]
  refine forall₂_congr fun group hgroup => checkGroup_eq_nil_iff ?_
  intro catalog hmem
  exact h catalog (mem_of_mem_groupByDirectory hgroup hmem)

/-- Whether there is a finding about coherence does not depend on the order of the
    catalogs, although the findings do. -/
theorem checkAll_eq_nil_of_perm {catalogs others : List ParsedCatalog}
    (h : ∀ catalog ∈ catalogs, catalog.KeysMatch) (hperm : catalogs.Perm others) :
    checkAll catalogs = [] ↔ checkAll others = [] := by
  have h' : ∀ catalog ∈ others, catalog.KeysMatch :=
    fun catalog hmem => h catalog (hperm.mem_iff.mpr hmem)
  rw [checkAll_eq_nil_iff h, checkAll_eq_nil_iff h']
  simp only [hperm.mem_iff]

/-- **Coherence is symmetric and complete.**  If the keys of every catalog are those it
    has values for, a group is coherent exactly if any two of its catalogs have the same
    keys and, for every key, values whose opening tags are permutations of each other.
    So the verdict is the same for every order of the catalogs, whichever of them becomes
    the reference.  And for all catalogs the group is coherent exactly if no finding is
    reported about it.  The keys of a catalog that has been checked on its own always are
    those it has values for. -/
theorem groupCoherent_symmetric_and_complete (catalogs : List ParsedCatalog) :
    ((∀ catalog ∈ catalogs, ∀ key, key ∈ catalog.orderedKeys ↔ catalog.contains key = true) →
      (groupCoherent catalogs = true
        ↔ ∀ first ∈ catalogs, ∀ second ∈ catalogs,
          (∀ key, key ∈ first.orderedKeys ↔ key ∈ second.orderedKeys)
          ∧ ∀ key expected actual, first.value? key = some expected →
            second.value? key = some actual →
            (openingTags expected).Perm (openingTags actual))
      ∧ ∀ others, catalogs.Perm others → groupCoherent others = groupCoherent catalogs)
    ∧ (groupCoherent catalogs = true ↔ checkGroup catalogs = [])
    ∧ ∀ options compiled file key,
        key ∈ (Catalog.checkFile options compiled file).1.orderedKeys
          ↔ (Catalog.checkFile options compiled file).1.contains key = true := by
  have hiff : ∀ group : List ParsedCatalog, (∀ catalog ∈ group, catalog.KeysMatch) →
      (groupCoherent group = true
        ↔ ∀ first ∈ group, ∀ second ∈ group, Agree first second) :=
    fun group hmatch =>
      (groupCoherent_iff_eq_nil group).trans (checkGroup_eq_nil_iff hmatch)
  refine ⟨fun hmatch => ⟨?_, ?_⟩, groupCoherent_iff_eq_nil catalogs,
    Catalog.keysMatch_checkFile⟩
  · rw [hiff catalogs hmatch]
    constructor
    · intro h first hfirst second hsecond
      exact ⟨(h first hfirst second hsecond).keys, (h first hfirst second hsecond).markup⟩
    · intro h first hfirst second hsecond
      exact ⟨(h first hfirst second hsecond).1, (h first hfirst second hsecond).2⟩
  · intro others hperm
    have hmatch' : ∀ catalog ∈ others, catalog.KeysMatch :=
      fun catalog hmem => hmatch catalog (hperm.mem_iff.mpr hmem)
    rw [Bool.eq_iff_iff, hiff catalogs hmatch, hiff others hmatch']
    simp only [hperm.mem_iff]

/-- Two catalogs that have been checked, with the tags of a value in another order: they are
    coherent, also the other way round. -/
theorem groupCoherent_reordered_tags :
    let first : SourceFile := ⟨"en.json", "en.json", "\"A\": \"<b>x</b> <i>y</i>\""⟩
    let second : SourceFile := ⟨"fr.json", "fr.json", "\"A\": \"<i>z</i> <b>w</b>\""⟩
    let catalogs := [first, second].map fun file => (Catalog.checkFile {} [] file).1
    (∀ catalog ∈ catalogs, ∀ key, key ∈ catalog.orderedKeys ↔ catalog.contains key = true)
    ∧ catalogs.Perm catalogs.reverse
    ∧ groupCoherent catalogs.reverse = true := by
  intro first second catalogs
  have hmatch : ∀ catalog ∈ catalogs, ∀ key,
      key ∈ catalog.orderedKeys ↔ catalog.contains key = true := by
    intro catalog hmem
    obtain ⟨file, -, rfl⟩ := List.mem_map.mp hmem
    exact Catalog.keysMatch_checkFile {} [] file
  have hperm : catalogs.Perm catalogs.reverse := catalogs.reverse_perm.symm
  refine ⟨hmatch, hperm, ?_⟩
  rw [((groupCoherent_symmetric_and_complete catalogs).1 hmatch).2 _ hperm]
  decide +kernel

end CatalogLint.Coherence
