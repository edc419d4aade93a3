import CatalogLint.Catalog.KeyOrder
import Mathlib.Logic.Relation

/-! # The laws of the order of keys

    Keys are compared by the forms they are sorted by, so the order is a preorder, and keys
    are equal in it exactly if their forms are (`compareKeys_eq_iff`).

    * Underscores and the case of ASCII letters are changed one place after the other
      (`Respelled`).  What no such change touches is the spelling of a key, without underscores
      and with the letters of ASCII in lower case (`sameSpelling_iff`).
    * The form of a key is the lower-case form of its spelling (`sortForm_eq`): a capital
      letter of ASCII has the lower-case form of its small letter (`lowerCase_toLower`), and
      underscores go before anything is put in lower case. -/

namespace CatalogLint.Catalog

open Unicode

/-- Keys are in a preorder: that of the forms they are sorted by. -/
instance : Std.TransCmp compareKeys where
  eq_swap := Std.OrientedOrd.eq_swap
  isLE_trans := Std.TransOrd.isLE_trans

variable {first second : String}

/-- Keys are equal in the order if their characters are the same in lower case and without
    underscores. -/
theorem compareKeys_eq_iff :
    compareKeys first second = .eq
      ↔ (first.toList.filter (· != '_')).flatMap lowerCase
        = (second.toList.filter (· != '_')).flatMap lowerCase := by
  rw [compareKeys, Std.compare_eq_iff_eq, sortForm, sortForm, String.ofList_inj]

/-! ## Letters -/

/-- What relates a character to its small letter: a character that is its own small letter, or
    one of the capital letters of ASCII. -/
theorem forall_toLower {P : Char → Char → Prop} (hsmall : ∀ c : Char, c.toLower = c → P c c)
    (hcapitals : ∀ code ∈ List.range' 0x41 26, P (Char.ofNat code) (Char.ofNat code).toLower)
    (c : Char) : P c c.toLower := by
  by_cases hcapital : c.val ≥ 'A'.val ∧ c.val ≤ 'Z'.val
  · have hfirst : 0x41 ≤ c.toNat := UInt32.le_iff_toNat_le.mp hcapital.1
    have hlast : c.toNat ≤ 0x5A := UInt32.le_iff_toNat_le.mp hcapital.2
    have hcode : c.toNat ∈ List.range' 0x41 26 := by
      rw [List.mem_range'_1]
      omega
    have hletter := hcapitals _ hcode
    rwa [Char.ofNat_toNat] at hletter
  · have hsame : c.toLower = c := dif_neg hcapital
    rw [hsame]
    exact hsmall c hsame

/-- A character and its small letter have one lower-case form. -/
theorem lowerCase_toLower (c : Char) : lowerCase c.toLower = lowerCase c :=
  forall_toLower (P := fun c small => lowerCase small = lowerCase c) (fun _ _ => rfl) (by decide) c

/-- No letter becomes an underscore, and an underscore stays one. -/
theorem toLower_bne_underscore (c : Char) : (c.toLower != '_') = (c != '_') :=
  forall_toLower (P := fun c small => (small != '_') = (c != '_')) (fun _ _ => rfl) (by decide) c

/-- A small letter is its own small letter. -/
theorem toLower_toLower (c : Char) : c.toLower.toLower = c.toLower :=
  forall_toLower (P := fun _ small => small.toLower = small) (fun _ => id) (by decide) c

/-! ## Spellings -/

/-- One change to the spelling of a key: an underscore comes in somewhere, or a letter of
    ASCII is put in lower case. -/
inductive Respelled : List Char → List Char → Prop where
  | underscore (front back : List Char) : Respelled (front ++ back) (front ++ '_' :: back)
  | letter (front back : List Char) (c : Char) :
      Respelled (front ++ c :: back) (front ++ c.toLower :: back)

/-- Two keys differ only in underscores and in the case of ASCII letters: changes, made or
    taken back, lead from one to the other. -/
def SameSpelling (first second : String) : Prop :=
  Relation.EqvGen Respelled first.toList second.toList

/-- The spelling of a key: its characters without underscores, with the letters of ASCII in
    lower case. -/
def spelling (key : List Char) : List Char :=
  (key.filter (· != '_')).map Char.toLower

/-- A change leaves the spelling as it is. -/
theorem Respelled.spelling_eq {key key' : List Char} (h : Respelled key key') :
    spelling key = spelling key' := by
  cases h with
  | underscore front back =>
      rw [spelling, spelling, List.filter_append, List.filter_append, List.filter_cons,
        if_neg (by decide)]
  | letter front back c =>
      rw [spelling, spelling, List.filter_append, List.filter_append, List.filter_cons,
        List.filter_cons, toLower_bne_underscore]
      split
      · simp only [List.map_append, List.map_cons, toLower_toLower]
      · rfl

/-- A key comes to its spelling by changes, place by place. -/
theorem eqvGen_spelling (front key : List Char) :
    Relation.EqvGen Respelled (front ++ key) (front ++ spelling key) := by
  -- what has its spelling already is moved to the part in front
  induction key generalizing front with
  | nil => exact .refl _
  | cons c key ih =>
      by_cases hc : c = '_'
      · have hspelling : spelling (c :: key) = spelling key := by
          rw [spelling, List.filter_cons, if_neg (by simp [hc]), spelling]
        rw [hspelling, hc]
        exact .trans _ _ _ (.symm _ _ (.rel _ _ (.underscore front key))) (ih front)
      · have hspelling : spelling (c :: key) = c.toLower :: spelling key := by
          rw [spelling, List.filter_cons, if_pos (by simp [hc]), List.map_cons, spelling]
        have hrest := ih (front ++ [c.toLower])
        rw [List.append_assoc, List.append_assoc] at hrest
        rw [hspelling]
        exact .trans _ _ _ (.rel _ _ (.letter front key c)) hrest

/-- Changes leave the spelling as it is, made or taken back. -/
theorem spelling_eq_of_eqvGen {key key' : List Char} (h : Relation.EqvGen Respelled key key') :
    spelling key = spelling key' := by
  induction h with
  | rel _ _ hchange => exact hchange.spelling_eq
  | refl => rfl
  | symm _ _ _ ih => exact ih.symm
  | trans _ _ _ _ _ ih ih' => exact ih.trans ih'

/-- **Two keys differ only in underscores and in the case of ASCII letters** exactly if they
    have one spelling. -/
theorem sameSpelling_iff :
    SameSpelling first second ↔ spelling first.toList = spelling second.toList := by
  refine ⟨spelling_eq_of_eqvGen, fun h => ?_⟩
  have hfirst := eqvGen_spelling [] first.toList
  rw [List.nil_append, List.nil_append, h] at hfirst
  exact .trans _ _ _ hfirst (.symm _ _ (eqvGen_spelling [] second.toList))

instance (first second : String) : Decidable (SameSpelling first second) :=
  decidable_of_iff _ sameSpelling_iff.symm

/-- The form that a key is sorted by is that of its spelling. -/
theorem sortForm_eq (key : String) :
    sortForm key = String.ofList ((spelling key.toList).flatMap lowerCase) := by
  simp only [sortForm, spelling, List.flatMap_map, lowerCase_toLower]

/-- Keys with one spelling are sorted alike. -/
theorem SameSpelling.sortForm_eq (h : SameSpelling first second) :
    sortForm first = sortForm second := by
  rw [Catalog.sortForm_eq, Catalog.sortForm_eq, sameSpelling_iff.mp h]

/-- **The order of keys is a total preorder that does not see underscores and ASCII case.**
    It is reflexive, turned round with its keys, and transitive; keys that differ only in
    underscores and in the case of ASCII letters are compared alike with any key; and keys are
    equal in it exactly if their characters are the same in lower case and without
    underscores, whatever characters they have. -/
theorem key_order_is_a_preorder_of_spellings (first second third : String) :
    compareKeys first first = .eq
    ∧ compareKeys second first = (compareKeys first second).swap
    ∧ (compareKeys first second ≠ .gt ∨ compareKeys second first ≠ .gt)
    ∧ (compareKeys first second ≠ .gt → compareKeys second third ≠ .gt →
        compareKeys first third ≠ .gt)
    ∧ (∀ first' second', SameSpelling first first' → SameSpelling second second' →
        compareKeys first' second' = compareKeys first second)
    ∧ (compareKeys first second = .eq
        ↔ (first.toList.filter (· != '_')).flatMap lowerCase
          = (second.toList.filter (· != '_')).flatMap lowerCase) := by
  have hswap : compareKeys second first = (compareKeys first second).swap :=
    Std.OrientedCmp.eq_swap
  refine ⟨Std.ReflCmp.compare_self, hswap, ?_, ?_, ?_, compareKeys_eq_iff⟩
  · rw [hswap]
    cases compareKeys first second with
    | lt => exact Or.inl (by decide)
    | eq => exact Or.inl (by decide)
    | gt => exact Or.inr (by decide)
  · intro hfirst hsecond
    exact Ordering.isLE_iff_ne_gt.mp (Std.TransCmp.isLE_trans
      (Ordering.isLE_iff_ne_gt.mpr hfirst) (Ordering.isLE_iff_ne_gt.mpr hsecond))
  · intro first' second' hfirst hsecond
    rw [compareKeys, compareKeys, hfirst.sortForm_eq, hsecond.sortForm_eq]

/-- A capital I with a dot above is two characters in lower case: a key with it is equal to one
    that has the two, in whatever case and with whatever underscores it is written, and not
    behind one that goes on. -/
theorem key_order_of_a_dotted_capital :
    compareKeys "\u0130_B" "I\u0307b" = .eq
    ∧ SameSpelling "\u0130_B" "__\u0130b" ∧ SameSpelling "I\u0307b" "i_\u0307_B"
    ∧ compareKeys "__\u0130b" "i_\u0307_B" = .eq
    ∧ compareKeys "I\u0307b" "i\u0307_BC" ≠ .gt ∧ compareKeys "\u0130_B" "i\u0307_BC" ≠ .gt := by
  obtain ⟨-, -, -, htrans, hcongr, hequal⟩ :=
    key_order_is_a_preorder_of_spellings "\u0130_B" "I\u0307b" "i\u0307_BC"
  have heq : compareKeys "\u0130_B" "I\u0307b" = .eq := hequal.mpr (by decide +kernel)
  have hfirst : SameSpelling "\u0130_B" "__\u0130b" := by decide +kernel
  have hsecond : SameSpelling "I\u0307b" "i_\u0307_B" := by decide +kernel
  have hlonger : compareKeys "I\u0307b" "i\u0307_BC" ≠ .gt := by decide +kernel
  refine ⟨heq, hfirst, hsecond, ?_, hlonger, htrans ?_ hlonger⟩
  · rw [hcongr _ _ hfirst hsecond, heq]
  · rw [heq]
    decide

end CatalogLint.Catalog
