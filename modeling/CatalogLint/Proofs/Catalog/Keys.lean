import CatalogLint.Catalog.Parsed
import CatalogLint.Proofs.KeyStore

/-! # The keys and the values of a checked catalog

    While the lines of a catalog are checked, the list of the keys met, the set of them and
    the values read are kept side by side.  A key is in one of the three exactly if it is in
    the others, whatever the lines look like (`Progress.InStep.checkLines`), so a checked
    catalog has a value for each of its keys and for nothing else (`keysMatch_checkFile`).

    What pairs leave behind is known in full: their keys without repetitions, in the order
    of their first pairs (`ordered_recordAll`), and for each key the value of its last pair
    (`lookup_values_recordAll`). -/

namespace CatalogLint

namespace ParsedCatalog

/-- A catalog has values for its keys, and for them only. -/
def KeysMatch (catalog : ParsedCatalog) : Prop :=
  ∀ key, key ∈ catalog.orderedKeys ↔ catalog.contains key = true

/-- A key of the catalog has a value. -/
theorem KeysMatch.value_of_mem {catalog : ParsedCatalog} (h : catalog.KeysMatch) {key : String}
    (hkey : key ∈ catalog.orderedKeys) : ∃ value, catalog.value? key = some value :=
  Option.isSome_iff_exists.mp ((h key).mp hkey)

/-- What has a value is a key of the catalog. -/
theorem KeysMatch.mem_of_value {catalog : ParsedCatalog} (h : catalog.KeysMatch)
    {key value : String} (hvalue : catalog.value? key = some value) :
    key ∈ catalog.orderedKeys :=
  (h key).mpr (Option.isSome_iff_exists.mpr ⟨value, hvalue⟩)

end ParsedCatalog

namespace Catalog

namespace Progress

variable {progress : Progress}

/-- The list and the set of the keys met so far agree, and these keys are those that have a
    value. -/
structure InStep (progress : Progress) : Prop where
  keys : progress.keys.Agrees
  values : ∀ key, key ∈ progress.keys.ordered ↔ (progress.values.lookup key).isSome = true

/-- Before the first line there are neither keys nor values. -/
theorem inStep_empty : ({} : Progress).InStep where
  keys := KeyStore.agrees_empty
  values _ := iff_of_false List.not_mem_nil Bool.false_ne_true

/-- One more pair brings its key, into the list and the set, and its value. -/
theorem InStep.record (h : progress.InStep) (key value : String) :
    (progress.record key value).InStep where
  keys := h.keys.insert key
  values other := by
    have hlookup : ((progress.record key value).values.lookup other).isSome = true
        ↔ (progress.values.lookup other).isSome = true ∨ other = key := by
      show (List.lookup other ((key, value) :: progress.values)).isSome = true ↔ _
      rw [List.lookup_cons]
      by_cases heq : other = key
      · rw [heq, beq_self_eq_true]
        exact iff_of_true rfl (Or.inr rfl)
      · rw [beq_eq_false_iff_ne.mpr heq]
        exact (or_iff_left heq).symm
    rw [hlookup, ← h.values other]
    exact h.keys.mem_ordered_insert

/-- One more line keeps list, set and values in step. -/
theorem InStep.afterLine (h : progress.InStep) (verdict : LineVerdict) :
    (progress.afterLine verdict).InStep := by
  cases verdict with
  | skip => exact h
  | malformed => exact h
  | pair key value => exact h.record key value

/-- **All lines keep list, set and values in step**, whatever they look like. -/
theorem InStep.checkLines (h : progress.InStep) (rules : Rules) (number : Nat)
    (lines : List (List Char)) : (Catalog.checkLines rules progress number lines).2.InStep := by
  induction lines generalizing progress number with
  | nil => exact h
  | cons line rest ih =>
      exact ih (h.afterLine (lineVerdict rules.options.indentUnit.toList line)) (number + 1)

end Progress

/-- **Keys and values match.**  A catalog that has been checked has a value for each of
    its keys and for nothing else. -/
theorem keysMatch_checkFile (options : Options)
    (compiled : List (String × List CompiledPattern)) (file : SourceFile) :
    (checkFile options compiled file).1.KeysMatch := by
  exact (Progress.inStep_empty.checkLines ⟨options, forbiddenFor compiled file.stem⟩ 1
    (file.content.toList.splitOn '\n')).values

/-! ## What pairs leave behind -/

namespace Progress

/-- What is known after some more pairs. -/
def recordAll (progress : Progress) (pairs : List (String × String)) : Progress :=
  pairs.foldl (fun progress pair => progress.record pair.1 pair.2) progress

/-- Some more pairs put their keys into the store, one after the other. -/
theorem keys_recordAll (progress : Progress) (pairs : List (String × String)) :
    (progress.recordAll pairs).keys = progress.keys.extend (pairs.map Prod.fst) := by
  induction pairs generalizing progress with
  | nil => rfl
  | cons pair rest ih => exact ih (progress.record pair.1 pair.2)

/-- The list and the set of the keys of some pairs agree. -/
theorem agrees_recordAll (pairs : List (String × String)) :
    (({} : Progress).recordAll pairs).keys.Agrees := by
  rw [keys_recordAll]
  exact KeyStore.agrees_empty.extend _

/-- **Pairs leave their keys behind**, each once and in the order of their first pairs. -/
theorem ordered_recordAll (pairs : List (String × String)) :
    (({} : Progress).recordAll pairs).keys.ordered = (pairs.map Prod.fst).eraseDups := by
  have hempty : KeyStore.empty.ordered = ([] : List String).eraseDups := rfl
  rw [keys_recordAll]
  exact KeyStore.agrees_empty.ordered_extend hempty _

/-- Values are kept latest first. -/
theorem values_recordAll (progress : Progress) (pairs : List (String × String)) :
    (progress.recordAll pairs).values = pairs.reverse ++ progress.values := by
  induction pairs generalizing progress with
  | nil => rfl
  | cons pair rest ih =>
      rw [List.reverse_cons, List.append_assoc]
      exact ih (progress.record pair.1 pair.2)

end Progress

/-- The value of a key is that of the first pair with the key. -/
theorem lookup_eq_head?_filter (key : String) (pairs : List (String × String)) :
    pairs.lookup key = ((pairs.filter (·.1 = key)).head?).map Prod.snd := by
  induction pairs with
  | nil => rfl
  | cons pair rest ih =>
      rw [List.lookup_cons, List.filter_cons]
      by_cases h : pair.1 = key
      · rw [h, beq_self_eq_true, decide_eq_true rfl]
        rfl
      · rw [beq_eq_false_iff_ne.mpr (Ne.symm h), decide_eq_false h]
        exact ih

/-- **Pairs leave the value of the last pair behind** for each key, and no other. -/
theorem lookup_values_recordAll (pairs : List (String × String)) (key : String) :
    (({} : Progress).recordAll pairs).values.lookup key
      = ((pairs.filter (·.1 = key)).getLast?).map Prod.snd := by
  rw [Progress.values_recordAll, List.append_nil, lookup_eq_head?_filter, List.filter_reverse,
    List.head?_reverse]

end Catalog

end CatalogLint
