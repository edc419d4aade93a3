import CatalogLint.Proofs.Catalog.KeyOrder
import CatalogLint.Proofs.Catalog.Pairs
import Mathlib.Data.List.Chain

/-! # The order of the keys of a catalog

    A new key is compared with the latest new key before it, and with no other.  Which key that
    is depends on the first pairs of the keys alone (`filter_keyOrder_pairReports`): pairs with
    a known key and lines without a pair are passed over.  The order of keys is a preorder, so
    neighbours are in order exactly if any two keys are (`forall_not_outOfOrder_iff`), and the
    warnings tell whether a catalog is sorted (`order_warnings_are_exact`). -/

namespace CatalogLint.Catalog

open Finding

/-- The second key does not sort before the first one. -/
def InKeyOrder (first second : String) : Prop :=
  compareKeys second first ≠ .lt

instance : Trans InKeyOrder InKeyOrder InKeyOrder where
  trans h h' :=
    Ordering.isGE_iff_ne_lt.mp (Std.TransCmp.isGE_trans (Ordering.isGE_iff_ne_lt.mpr h')
      (Ordering.isGE_iff_ne_lt.mpr h))

variable {items : List PairLine} {pair last : PairLine}

/-! ## Neighbours -/

/-- A pair sorts before the nearest of the pairs in front of it. -/
def OutOfOrder (items : List PairLine) (pair : PairLine) : Prop :=
  ∃ previous ∈ items, previous.number < pair.number
    ∧ (∀ other ∈ items, other.number < pair.number → other.number ≤ previous.number)
    ∧ compareKeys pair.key previous.key = .lt

instance (items : List PairLine) (pair : PairLine) : Decidable (OutOfOrder items pair) :=
  inferInstanceAs (Decidable (∃ previous ∈ items, _))

/-- A pair is not compared with a later one. -/
theorem outOfOrder_concat_of_mem (h : InLineOrder (items ++ [last])) (hmem : pair ∈ items) :
    OutOfOrder (items ++ [last]) pair ↔ OutOfOrder items pair := by
  have hitem : ∀ other ∈ items ++ [last], other.number < pair.number → other ∈ items :=
    fun other => h.mem_of_lt (List.mem_append_left _ hmem)
  constructor
  · rintro ⟨previous, hprevious, hlt, hnearest, hkeys⟩
    exact ⟨previous, hitem previous hprevious hlt, hlt,
      fun other hother => hnearest other (List.mem_append_left _ hother), hkeys⟩
  · rintro ⟨previous, hprevious, hlt, hnearest, hkeys⟩
    exact ⟨previous, List.mem_append_left _ hprevious, hlt,
      fun other hother hless => hnearest other (hitem other hother hless) hless, hkeys⟩

/-- The last pair is compared with the one right in front of it. -/
theorem outOfOrder_concat_last (h : InLineOrder (items ++ [last])) :
    OutOfOrder (items ++ [last]) last
      ↔ ∃ previous, items.getLast? = some previous ∧ compareKeys last.key previous.key = .lt := by
  constructor
  · rintro ⟨previous, hprevious, hlt, hnearest, hkeys⟩
    -- the nearest pair is the last of the items: each of the others has a smaller number
    refine ⟨previous, ?_, hkeys⟩
    obtain ⟨before, after, rfl⟩ :=
      List.append_of_mem (h.mem_of_lt List.mem_concat_self hprevious hlt)
    cases after with
    | nil => rw [List.getLast?_concat]
    | cons next rest =>
        have hnext : next ∈ before ++ previous :: next :: rest :=
          List.mem_append_right _ (List.mem_cons_of_mem _ List.mem_cons_self)
        have hle := hnearest next (List.mem_append_left _ hnext) (h.number_lt_last hnext)
        have hordered := (List.pairwise_append.mp h.of_concat).2.1
        have hgt := (List.pairwise_cons.mp hordered).1 next List.mem_cons_self
        omega
  · rintro ⟨previous, hprevious, hkeys⟩
    obtain ⟨before, rfl⟩ := List.getLast?_eq_some_iff.mp hprevious
    refine ⟨previous, List.mem_append_left _ List.mem_concat_self,
      h.number_lt_last List.mem_concat_self, fun other hother hlt => ?_, hkeys⟩
    exact h.of_concat.number_le_last (h.mem_of_lt List.mem_concat_self hother hlt)

/-- One more pair is out of order if it sorts before the one in front of it. -/
theorem filter_outOfOrder_concat (h : InLineOrder (items ++ [last])) :
    (items ++ [last]).filter (fun pair => OutOfOrder (items ++ [last]) pair)
      = items.filter (fun pair => OutOfOrder items pair)
        ++ if ∃ previous, items.getLast? = some previous
              ∧ compareKeys last.key previous.key = .lt
            then [last] else [] := by
  rw [filter_concat fun pair hmem => outOfOrder_concat_of_mem h hmem]
  simp only [outOfOrder_concat_last h]

/-- No pair is out of order exactly if neighbours are in order. -/
theorem forall_not_outOfOrder_iff_isChain (h : InLineOrder items) :
    (∀ pair ∈ items, ¬ OutOfOrder items pair)
      ↔ items.IsChain fun first second => InKeyOrder first.key second.key := by
  induction items using List.reverseRecOn with
  | nil => exact iff_of_true nofun List.isChain_nil
  | append_singleton items last ih =>
      have hbefore : (∀ pair ∈ items, ¬ OutOfOrder (items ++ [last]) pair)
          ↔ items.IsChain fun first second => InKeyOrder first.key second.key := by
        rw [← ih h.of_concat]
        exact forall₂_congr fun pair hmem => not_congr (outOfOrder_concat_of_mem h hmem)
      rw [List.isChain_append, ← hbefore, List.forall_mem_append, List.forall_mem_singleton,
        outOfOrder_concat_last h]
      refine and_congr_right fun _ => ?_
      constructor
      · intro hnone
        refine ⟨List.isChain_singleton last, fun previous hprevious next hnext hlt => ?_⟩
        cases hnext
        exact hnone ⟨previous, hprevious, hlt⟩
      · rintro ⟨-, hneighbours⟩ ⟨previous, hprevious, hlt⟩
        exact hneighbours previous hprevious last rfl hlt

/-- **Neighbours decide.**  No pair is out of order exactly if any two keys are in order. -/
theorem forall_not_outOfOrder_iff (h : InLineOrder items) :
    (∀ pair ∈ items, ¬ OutOfOrder items pair) ↔ (items.map (·.key)).Pairwise InKeyOrder := by
  rw [forall_not_outOfOrder_iff_isChain h, ← List.isChain_iff_pairwise, List.isChain_map]

/-! ## Warnings -/

/-- The warning about a pair whose key sorts before the latest new key. -/
def orderWarning (pair : PairLine) : Finding :=
  (Finding.warning .keyOrder
    ("i18n keys must be sorted alphabetically. Key " ++ pair.key
      ++ " breaks this rule.")).atLine pair.number

variable {options : Options} {rules : Rules} {progress : Progress} {pairs : List PairLine}

/-- The first pairs come in the order of their lines, too. -/
theorem InLineOrder.firsts (h : InLineOrder pairs) : InLineOrder (firsts pairs) :=
  h.filter _

/-- Nothing is reported about the order of a known key. -/
theorem orderFindings_of_known {key : String} (h : progress.keys.contains key = true) :
    orderFindings options progress key = [] := by
  rw [orderFindings, h, Bool.true_or, if_pos rfl]

/-- A new key is compared with the latest of the keys that are known. -/
theorem orderFindings_of_new (hordered : options.ignoreOrder = false)
    (hkeys : progress.keys.ordered = items.map (·.key))
    (hnew : progress.keys.contains last.key = false) :
    (orderFindings options progress last.key).map (·.atLine last.number)
      = if ∃ previous, items.getLast? = some previous ∧ compareKeys last.key previous.key = .lt
        then [orderWarning last] else [] := by
  rw [orderFindings, hnew, hordered, Bool.or_false, if_neg Bool.false_ne_true, hkeys,
    List.getLast?_map]
  cases items using List.reverseRecOn with
  | nil =>
      have hnone : ¬ ∃ previous : PairLine, [].getLast? = some previous
          ∧ compareKeys last.key previous.key = .lt := by
        rintro ⟨previous, hprevious, -⟩
        cases hprevious
      rw [if_neg hnone]
      rfl
  | append_singleton items latest =>
      simp only [List.getLast?_concat, Option.map_some, Option.some.injEq, exists_eq_left']
      split
      · rfl
      · rfl

/-- **Pairs out of order are reported**, each at its line, and nothing else is reported as
    one. -/
theorem filter_keyOrder_pairReports (hordered : rules.options.ignoreOrder = false)
    (h : InLineOrder pairs) :
    (pairReports rules {} pairs).filter (·.category = .keyOrder)
      = ((firsts pairs).filter fun pair => OutOfOrder (firsts pairs) pair).map orderWarning := by
  induction pairs using List.reverseRecOn with
  | nil => rfl
  | append_singleton pairs last ih =>
      have hkeys := ordered_recordAll_firsts h.of_concat
      have hfirsts := h.firsts
      rw [firsts_concat h] at hfirsts
      have hknown := contains_recordAll_iff pairs last.key
      rw [pairReports_concat, List.filter_append, ih h.of_concat, filter_map_atLine,
        filter_pairFindings, firsts_concat h]
      dsimp only
      by_cases hkey : last.key ∈ pairs.map (·.key)
      · rw [orderFindings_of_known (hknown.mpr hkey), if_pos hkey, List.append_nil]
        exact List.append_nil _
      · rw [if_neg hkey] at hfirsts ⊢
        have hnew := Bool.eq_false_iff.mpr (hkey ∘ hknown.mp)
        rw [orderFindings_of_new hordered hkeys hnew,
          filter_outOfOrder_concat hfirsts, List.map_append]
        refine congrArg _ ?_
        split
        · rfl
        · rfl

/-! ## Sorted catalogs -/

/-- **The warnings about the order are exact.**  Unless the order is free, a pair is warned
    about at its line exactly if it is the first of its key and its key sorts before that of
    the nearest first pair in front of it.  Repetitions and lines without a pair are not warned
    about, and no key is compared with them.  So there is no warning exactly if the
    catalog is sorted: no key sorts before any key in front of it, be it its neighbour or
    not. -/
theorem order_warnings_are_exact {options : Options} (hordered : options.ignoreOrder = false)
    (compiled : List (String × List CompiledPattern)) (content language : String) :
    let newKeys := firsts (pairLines options content)
    let checked := check options compiled content language
    checked.findings.filter (·.category = .keyOrder)
      = (newKeys.filter fun pair => ∃ previous ∈ newKeys, previous.number < pair.number
          ∧ (∀ other ∈ newKeys, other.number < pair.number → other.number ≤ previous.number)
          ∧ compareKeys pair.key previous.key = .lt).map orderWarning
    ∧ ((∀ finding ∈ checked.findings, finding.category ≠ .keyOrder)
      ↔ checked.orderedKeys.Pairwise fun first second => compareKeys second first ≠ .lt) := by
  intro newKeys checked
  have horder : InLineOrder (pairLines options content) := inLineOrder_pairLines options content
  have hwarnings : checked.findings.filter (·.category = .keyOrder)
      = (newKeys.filter fun pair => OutOfOrder newKeys pair).map orderWarning := by
    rw [filter_findings_check .keyOrder nofun nofun]
    exact filter_keyOrder_pairReports hordered horder
  refine ⟨hwarnings, ?_⟩
  have hnone : (∀ finding ∈ checked.findings, finding.category ≠ .keyOrder)
      ↔ ∀ pair ∈ newKeys, ¬ OutOfOrder newKeys pair := by
    have hempty := congrArg (· = []) hwarnings
    simpa only [List.filter_eq_nil_iff, List.map_eq_nil_iff, decide_eq_true_eq, ne_eq,
      eq_iff_iff] using hempty
  rw [hnone, forall_not_outOfOrder_iff horder.firsts, ← orderedKeys_check]
  rfl

/-- A key that sorts before the latest new key, with a repetition and a malformed line between
    the two: it is warned about, although it sorts after the key of the repetition. -/
theorem order_warning_behind_a_repetition :
    let options : Options := {}
    let content := "\"A\": \"1\"\n\"C\": \"2\"\n\"A\": \"3\"\nx\n\"_b\": \"4\""
    let checked := check options [] content "en"
    let warning : Finding :=
      ⟨.keyOrder, .warning, "i18n keys must be sorted alphabetically. Key _b breaks this rule.",
        some 5, none⟩
    options.ignoreOrder = false
    ∧ checked.findings.filter (·.category = .keyOrder) = [warning]
    ∧ ¬ checked.orderedKeys.Pairwise fun first second => compareKeys second first ≠ .lt := by
  intro options content checked warning
  have hordered : options.ignoreOrder = false := rfl
  obtain ⟨hwarnings, hsorted⟩ := order_warnings_are_exact hordered [] content "en"
  have hfound : checked.findings.filter (·.category = .keyOrder) = [warning] :=
    hwarnings.trans (by decide +kernel)
  refine ⟨hordered, hfound, ?_⟩
  rw [← hsorted]
  intro hnone
  have hmem : warning ∈ checked.findings.filter (·.category = .keyOrder) := by
    rw [hfound]
    exact List.mem_singleton_self warning
  exact hnone warning (List.mem_filter.mp hmem).1 rfl

end CatalogLint.Catalog
