import CatalogLint.Markup
import Mathlib.Data.List.Basic
import Mathlib.Data.List.Count

/-! # The comparison of markup as a difference of multisets

    The comparison takes the tags of one value out of those of the other, one after the
    other.  What it reports is the difference of the two lists in both directions, each
    in the order of the list it is taken from (`compareTags_eq_diff`).  Hence every tag is
    unexpected as often as it is in excess (`count_unexpected_compareTags`) and missing as
    often as it is short of (`count_missing_compareTags`), nothing is reported exactly if
    the lists are permutations of each other (`compare_eq_nil_iff`), and two values that
    change places only change the two kinds of reports (`compareTags_swap_perm`). -/

namespace CatalogLint.Markup

/-! ## The two differences -/

/-- **What is reported is the difference in both directions**: the tags that are not
    expected, in their order, and then the expected ones that remain, in theirs. -/
theorem compareTags_eq_diff (expected compared : List String) :
    compareTags expected compared
      = (compared.diff expected).map .unexpected ++ (expected.diff compared).map .missing := by
  induction compared generalizing expected with
  | nil => rw [compareTags, List.nil_diff, List.diff_nil, List.map_nil, List.nil_append]
  | cons first rest ih =>
      rw [compareTags, List.diff_cons, List.cons_diff]
      by_cases hfirst : first ∈ expected
      · rw [if_pos hfirst, if_pos hfirst, ih]
      · -- taking out a tag that is not expected leaves the expected ones as they are
        rw [if_neg hfirst, if_neg hfirst, ih, List.erase_of_not_mem hfirst, List.map_cons,
          List.cons_append]

/-- Reports of one kind are none of the other. -/
theorem count_map_eq_zero {kind : String → MarkupDiff} {diff : MarkupDiff}
    (h : ∀ tag, kind tag ≠ diff) (tags : List String) : (tags.map kind).count diff = 0 := by
  rw [List.count_eq_zero, List.mem_map]
  rintro ⟨tag, -, heq⟩
  exact h tag heq

/-- A tag is unexpected as often as it occurs more often than expected. -/
theorem count_unexpected_compareTags (expected compared : List String) (tag : String) :
    (compareTags expected compared).count (.unexpected tag)
      = compared.count tag - expected.count tag := by
  have hinjective : Function.Injective MarkupDiff.unexpected :=
    fun _ _ h => MarkupDiff.unexpected.inj h
  have hother : ∀ other, MarkupDiff.missing other ≠ .unexpected tag := nofun
  rw [compareTags_eq_diff, List.count_append, count_map_eq_zero hother, Nat.add_zero,
    List.count_map_of_injective _ _ hinjective, List.count_diff]

/-- A tag is missing as often as it occurs less often than expected. -/
theorem count_missing_compareTags (expected compared : List String) (tag : String) :
    (compareTags expected compared).count (.missing tag)
      = expected.count tag - compared.count tag := by
  have hinjective : Function.Injective MarkupDiff.missing := fun _ _ h => MarkupDiff.missing.inj h
  have hother : ∀ other, MarkupDiff.unexpected other ≠ .missing tag := nofun
  rw [compareTags_eq_diff, List.count_append, count_map_eq_zero hother, Nat.zero_add,
    List.count_map_of_injective _ _ hinjective, List.count_diff]

/-! ## Equal multisets -/

/-- Nothing differs exactly if every tag occurs as often as expected. -/
theorem compareTags_eq_nil_iff (expected compared : List String) :
    compareTags expected compared = [] ↔ expected.Perm compared := by
  rw [List.perm_iff_count]
  constructor
  · intro h tag
    have hmore := count_unexpected_compareTags expected compared tag
    have hless := count_missing_compareTags expected compared tag
    rw [h, List.count_nil] at hmore hless
    omega
  · intro h
    rw [List.eq_nil_iff_forall_not_mem]
    intro diff hdiff
    have hpos := List.count_pos_iff.mpr hdiff
    cases diff with
    | unexpected tag =>
        rw [count_unexpected_compareTags, h tag] at hpos
        omega
    | missing tag =>
        rw [count_missing_compareTags, h tag] at hpos
        omega

/-- Two values do not differ exactly if their lists of opening tags are permutations of
    each other. -/
theorem compare_eq_nil_iff (reference compared : String) :
    Markup.compare reference compared = []
      ↔ (openingTags reference).Perm (openingTags compared) :=
  compareTags_eq_nil_iff _ _

/-! ## Both directions -/

/-- The report from the side of the other value: what one value has too often, the other
    one misses. -/
def MarkupDiff.swap : MarkupDiff → MarkupDiff
  | .unexpected tag => .missing tag
  | .missing tag => .unexpected tag

/-- Two lists that change places change the kinds of the reports, and their order at most. -/
theorem compareTags_swap_perm (expected compared : List String) :
    (compareTags compared expected).Perm ((compareTags expected compared).map .swap) := by
  rw [compareTags_eq_diff compared expected, compareTags_eq_diff expected compared,
    List.map_append, List.map_map, List.map_map]
  exact List.perm_append_comm

/-- **The comparison of markup is the difference of two multisets.**  First come the
    unexpected tags, in an order in which the compared value has them, and then the missing
    ones, in an order in which the reference has them.  A tag is unexpected as often as the
    compared value has it more often, and missing as often as the reference does.  So nothing
    is reported exactly if the tags are the same up to their order, and values that change
    places change the kinds of the reports. -/
theorem compare_is_two_sided_difference (reference compared : String) :
    (∃ unexpected missing : List String,
        Markup.compare reference compared
          = unexpected.map .unexpected ++ missing.map .missing
        ∧ unexpected.Sublist (openingTags compared)
        ∧ missing.Sublist (openingTags reference))
      ∧ (∀ tag, (Markup.compare reference compared).count (.unexpected tag)
          = (openingTags compared).count tag - (openingTags reference).count tag)
      ∧ (∀ tag, (Markup.compare reference compared).count (.missing tag)
          = (openingTags reference).count tag - (openingTags compared).count tag)
      ∧ (Markup.compare reference compared = []
          ↔ (openingTags reference).Perm (openingTags compared))
      ∧ (Markup.compare compared reference).Perm
          ((Markup.compare reference compared).map .swap) := by
  refine ⟨⟨(openingTags compared).diff (openingTags reference),
      (openingTags reference).diff (openingTags compared), ?_, ?_, ?_⟩,
    count_unexpected_compareTags _ _, count_missing_compareTags _ _,
    compare_eq_nil_iff reference compared, compareTags_swap_perm _ _⟩
  · exact compareTags_eq_diff _ _
  · exact List.diff_sublist _ _
  · exact List.diff_sublist _ _

end CatalogLint.Markup
