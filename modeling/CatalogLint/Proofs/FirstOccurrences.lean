import Mathlib.Data.Finset.Card
import Mathlib.Data.List.Induction

/-! # First occurrences

    `List.eraseDups` lists the items of a list in the order in which they first occur, each
    of them once.  The rules of a log, the directories of catalogs and the keys of a
    catalog are listed so, each by a recursion of its own; what is known of such a list is
    stated here, from one more item at the end (`eraseDups_concat`): no item is listed twice,
    and an item is listed before another one if it occurs before it
    (`pairwise_idxOf_eraseDups`). -/

namespace CatalogLint

variable {α : Type} [BEq α] [LawfulBEq α]

/-- One more item counts if it has not occurred before. -/
theorem eraseDups_concat (items : List α) (item : α) :
    (items ++ [item]).eraseDups
      = if item ∈ items then items.eraseDups else items.eraseDups ++ [item] := by
  rw [List.eraseDups_append, List.removeAll, List.filter_cons, List.filter_nil]
  by_cases h : item ∈ items
  · rw [if_pos h, if_neg (by simp [h]), List.eraseDups_nil, List.append_nil]
  · rw [if_neg h, if_pos (by simp [h]), List.eraseDups_cons, List.filter_nil, List.eraseDups_nil]

/-- No item is listed twice. -/
theorem nodup_eraseDups (items : List α) : items.eraseDups.Nodup := by
  induction items using List.reverseRecOn with
  | nil => exact List.nodup_nil
  | append_singleton items item ih =>
      rw [eraseDups_concat]
      split
      · exact ih
      · rename_i hnew
        refine List.nodup_append.mpr ⟨ih, List.pairwise_singleton _ item, ?_⟩
        intro old hold new hnew' heq
        rw [List.mem_singleton.mp hnew'] at heq
        exact hnew (List.mem_eraseDups.mp (heq ▸ hold))

/-- Without repetitions the list stays as it is. -/
theorem eraseDups_eq_self {items : List α} (h : items.Nodup) : items.eraseDups = items := by
  induction items using List.reverseRecOn with
  | nil => rfl
  | append_singleton items item ih =>
      obtain ⟨hitems, -, hdisjoint⟩ := List.nodup_append.mp h
      have hnew : item ∉ items :=
        fun hmem => hdisjoint item hmem item (List.mem_singleton_self item) rfl
      rw [eraseDups_concat, if_neg hnew, ih hitems]

/-- Items are listed in the order of the places where they first occur. -/
theorem pairwise_idxOf_eraseDups (items : List α) :
    items.eraseDups.Pairwise fun first second => items.idxOf first < items.idxOf second := by
  induction items using List.reverseRecOn with
  | nil => exact List.Pairwise.nil
  | append_singleton items item ih =>
      -- what has occurred before keeps its place
      have hplace : ∀ old ∈ items, (items ++ [item]).idxOf old = items.idxOf old :=
        fun old hold => by rw [List.idxOf_append, if_pos hold]
      have hbefore : items.eraseDups.Pairwise fun first second =>
          (items ++ [item]).idxOf first < (items ++ [item]).idxOf second := by
        refine ih.imp_of_mem fun hfirst hsecond hlt => ?_
        rw [hplace _ (List.mem_eraseDups.mp hfirst), hplace _ (List.mem_eraseDups.mp hsecond)]
        exact hlt
      rw [eraseDups_concat]
      split
      · exact hbefore
      · rename_i hnew
        refine List.pairwise_append.mpr ⟨hbefore, List.pairwise_singleton _ item, ?_⟩
        intro old hold new hnew'
        have hmem : old ∈ items := List.mem_eraseDups.mp hold
        rw [List.mem_singleton.mp hnew', hplace old hmem, List.idxOf_append, if_neg hnew]
        exact Nat.lt_add_left _ (List.idxOf_lt_length_of_mem hmem)

/-- As many items are listed as there are different ones. -/
theorem length_eraseDups [DecidableEq α] (items : List α) :
    items.eraseDups.length = items.toFinset.card := by
  have hsame : items.eraseDups.toFinset = items.toFinset := by
    ext item
    rw [List.mem_toFinset, List.mem_toFinset, List.mem_eraseDups]
  rw [← hsame, List.toFinset_card_of_nodup (nodup_eraseDups items)]

/-- Items that are left out leave the order of the others as it is. -/
theorem eraseDups_filter (keep : α → Bool) (items : List α) :
    (items.filter keep).eraseDups = items.eraseDups.filter keep := by
  induction items using List.reverseRecOn with
  | nil => rfl
  | append_singleton items item ih =>
      rw [List.filter_append, List.filter_cons, List.filter_nil, eraseDups_concat]
      by_cases hkeep : keep item = true
      · rw [if_pos hkeep, eraseDups_concat, ih]
        simp only [List.mem_filter, hkeep, and_true]
        split
        · rfl
        · rw [List.filter_append, List.filter_cons, if_pos hkeep, List.filter_nil]
      · rw [if_neg hkeep, List.append_nil, ih]
        split
        · rfl
        · rw [List.filter_append, List.filter_cons, if_neg hkeep, List.filter_nil,
            List.append_nil]

end CatalogLint
