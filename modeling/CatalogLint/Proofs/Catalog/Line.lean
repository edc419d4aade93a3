import CatalogLint.Catalog.Line
import CatalogLint.Proofs.Text.Marks

/-! # The shape of a line

    A pair is read off a line exactly if the line holds a key and a value in quotes, with
    nothing but a comma and white space behind them (`readPair_eq_some_iff`).  A pair is
    found behind an indent unit (`readIndentedPair_indented`) as well as at the start of
    the line (`readIndentedPair_flush`): a unit that a pair happens to begin with takes one
    of its four quotes away, and what is left of it is no pair.  So a line holds at most one
    pair, whatever the unit is made of, and its verdict tells what the line is
    (`line_grammar_is_exact`). -/

namespace CatalogLint.Catalog

open Text Unicode

variable {key value tail text indent line : List Char}

/-! ## Pairs -/

/-- A key and a value in quotes. -/
def pairText (key value : List Char) : List Char :=
  '"' :: (key ++ '"' :: ':' :: ' ' :: '"' :: (value ++ ['"']))

/-- A text is what stands up to its first quote and the rest. -/
theorem takeWhile_quote_append_drop (text : List Char) :
    text = text.takeWhile (· != '"') ++ text.drop (text.takeWhile (· != '"')).length :=
  (List.prefix_iff_eq_append.mp (List.takeWhile_prefix _)).symm

/-- There is no quote up to the first one. -/
theorem quote_notMem_takeWhile (text : List Char) : '"' ∉ text.takeWhile (· != '"') := by
  intro hmem
  have hall := @List.all_takeWhile Char (· != '"') text
  exact absurd (List.all_eq_true.mp hall _ hmem) (by decide)

/-- A pair that has been written is read. -/
theorem readPair_pairText (hne : key ≠ []) (hkey : '"' ∉ key) (hvalue : '"' ∉ value)
    (htail : endsPair tail = true) : readPair (pairText key value ++ tail) = some (key, value) := by
  have htext : pairText key value ++ tail
      = '"' :: (key ++ '"' :: ':' :: ' ' :: '"' :: (value ++ '"' :: tail)) := by
    simp only [pairText, List.cons_append, List.append_assoc, List.nil_append]
  rw [htext, readPair]
  simp only [takeWhile_append_stop hkey, takeWhile_append_stop hvalue, List.drop_left,
    List.isEmpty_eq_false_iff.mpr hne, htail, if_true, Bool.false_eq_true, if_false]

/-- A pair that is read has been written. -/
theorem of_readPair_eq_some (h : readPair text = some (key, value)) :
    key ≠ [] ∧ '"' ∉ key ∧ '"' ∉ value
      ∧ ∃ tail, endsPair tail = true ∧ text = pairText key value ++ tail := by
  revert h
  fun_cases readPair text with
  | case2 rest first hne afterKey hkey second tail hvalue htail =>
      rw [Option.some.injEq, Prod.mk.injEq]
      rintro ⟨hfirst, hsecond⟩
      rw [← hfirst, ← hsecond]
      have hrest : rest = first ++ rest.drop first.length := takeWhile_quote_append_drop rest
      have hafter : afterKey = second ++ afterKey.drop second.length :=
        takeWhile_quote_append_drop afterKey
      rw [hvalue] at hafter
      rw [hkey, hafter] at hrest
      refine ⟨fun hempty => hne (List.isEmpty_iff.mpr hempty), quote_notMem_takeWhile rest,
        quote_notMem_takeWhile afterKey, tail, htail, ?_⟩
      rw [hrest]
      simp only [pairText, List.cons_append, List.append_assoc, List.nil_append]
  | case1 => exact nofun
  | case3 => exact nofun
  | case4 => exact nofun
  | case5 => exact nofun
  | case6 => exact nofun

/-- **What is read as a pair** is a key and a value in quotes, with nothing but a comma and
    white space behind them; the key is not empty, and there are no quotes in either. -/
theorem readPair_eq_some_iff :
    readPair text = some (key, value)
      ↔ key ≠ [] ∧ '"' ∉ key ∧ '"' ∉ value
        ∧ ∃ tail, endsPair tail = true ∧ text = pairText key value ++ tail := by
  constructor
  · exact of_readPair_eq_some
  · rintro ⟨hne, hkey, hvalue, tail, htail, rfl⟩
    exact readPair_pairText hne hkey hvalue htail

/-! ## Indented pairs -/

/-- There are four quotes in a pair. -/
theorem count_quote_pairText (hkey : '"' ∉ key) (hvalue : '"' ∉ value) :
    (pairText key value).count '"' = 4 := by
  simp [pairText, List.count_eq_zero.mpr hkey, List.count_eq_zero.mpr hvalue]

/-- What has fewer than four quotes is not read as a pair. -/
theorem readPair_eq_none (h : text.count '"' < 4) : readPair text = none := by
  rw [Option.eq_none_iff_forall_ne_some]
  rintro ⟨key, value⟩ hpair
  obtain ⟨-, hkey, hvalue, tail, -, rfl⟩ := readPair_eq_some_iff.mp hpair
  rw [List.count_append, count_quote_pairText hkey hvalue] at h
  omega

/-- A pair behind an indent unit is read there. -/
theorem readIndentedPair_indented {pair : List Char × List Char} (h : readPair line = some pair) :
    readIndentedPair indent (indent ++ line) = some pair := by
  rw [readIndentedPair, after?_append, Option.bind_some, h]

/-- A pair at the start of a line is read there: an indent unit that the line begins with
    takes one of its four quotes away. -/
theorem readIndentedPair_flush (hne : key ≠ []) (hkey : '"' ∉ key) (hvalue : '"' ∉ value)
    (htail : endsPair tail = true) (hquotes : '"' ∉ tail) :
    readIndentedPair indent (pairText key value ++ tail) = some (key, value) := by
  have hpair := readPair_pairText hne hkey hvalue htail
  rw [readIndentedPair]
  cases hafter : after? indent (pairText key value ++ tail) with
  | none => rw [Option.bind_none, hpair]
  | some rest =>
      rw [Option.bind_some]
      have hline := after?_eq_some_iff.mp hafter
      cases indent with
      | nil =>
          rw [List.nil_append] at hline
          rw [← hline, hpair]
      | cons c indent =>
          have hcount : (pairText key value ++ tail).count '"' = 4 := by
            rw [List.count_append, count_quote_pairText hkey hvalue, List.count_eq_zero.mpr hquotes]
          have hquote : '"' = c := (List.cons.inj hline).1
          rw [hline, ← hquote, List.cons_append, List.count_cons_self, List.count_append] at hcount
          rw [readPair_eq_none (by omega), hpair]

/-! ## Verdicts -/

/-- Taking white space off the start of a text leaves the other characters in it. -/
theorem mem_trimStart {c : Char} (h : c ∈ text) (hc : isBlank c = false) : c ∈ trimStart text := by
  rw [← @List.takeWhile_append_dropWhile Char isBlank text] at h
  refine (List.mem_append.mp h).resolve_left fun htaken => ?_
  have hall := @List.all_takeWhile Char isBlank text
  have hblank := List.all_eq_true.mp hall c htaken
  rw [hc] at hblank
  exact Bool.false_ne_true hblank

/-- Taking white space off both ends of a text leaves the other characters in it. -/
theorem mem_trim {c : Char} (h : c ∈ text) (hc : isBlank c = false) : c ∈ trim text := by
  rw [trim, trimEnd, List.mem_reverse]
  exact mem_trimStart (List.mem_reverse.mpr (mem_trimStart h hc)) hc

/-- A line that holds a quote and reads as a pair is that pair. -/
theorem verdict_eq_pair (hquote : '"' ∈ line)
    (h : readIndentedPair indent line = some (key, value)) :
    verdict indent line = .pair (String.ofList key) (String.ofList value) := by
  have hmem := mem_trim hquote (by decide)
  have hshape : ¬ (trim line = [] ∨ trim line = ['\x7b'] ∨ trim line = ['\x7d']) := by
    rintro (heq | heq | heq) <;> rw [heq] at hmem <;> exact absurd hmem (by decide)
  rw [verdict]
  simp only [hshape, if_false, h]

/-! ## The grammar of a line -/

/-- A line that holds a pair: one indent unit or none, a key and a value in quotes, a comma
    or none, and white space.  The key is not empty, and there are no quotes in either. -/
structure HoldsPair (indent line key value : List Char) : Prop where
  key_ne_nil : key ≠ []
  quote_notMem_key : '"' ∉ key
  quote_notMem_value : '"' ∉ value
  written : ∃ start comma blanks, (start = [] ∨ start = indent) ∧ (comma = [] ∨ comma = [','])
    ∧ (∀ c ∈ blanks, isBlank c = true)
    ∧ line = start ++ (pairText key value ++ (comma ++ blanks))

/-- What may follow the value is a comma or none, and white space. -/
theorem endsPair_iff :
    endsPair tail = true
      ↔ ∃ comma blanks, (comma = [] ∨ comma = [',']) ∧ (∀ c ∈ blanks, isBlank c = true)
        ∧ tail = comma ++ blanks := by
  constructor
  · intro h
    rw [endsPair.eq_def] at h
    split at h
    · rename_i blanks
      exact ⟨[','], blanks, Or.inr rfl, List.all_eq_true.mp h, rfl⟩
    · exact ⟨[], tail, Or.inl rfl, List.all_eq_true.mp h, rfl⟩
  · rintro ⟨comma, blanks, hcomma, hblanks, rfl⟩
    rcases hcomma with rfl | rfl
    · cases blanks with
      | nil => rfl
      | cons c blanks =>
          have hc : c ≠ ',' := by
            rintro rfl
            exact absurd (hblanks ',' List.mem_cons_self) (by decide)
          rw [List.nil_append, endsPair.eq_2 _ (fun rest heq => hc (List.cons.inj heq).1)]
          exact List.all_eq_true.mpr hblanks
    · exact List.all_eq_true.mpr hblanks

/-- There is no quote in what may follow the value. -/
theorem quote_notMem_of_endsPair (h : endsPair tail = true) : '"' ∉ tail := by
  obtain ⟨comma, blanks, hcomma, hblanks, rfl⟩ := endsPair_iff.mp h
  rw [List.mem_append, not_or]
  constructor
  · rcases hcomma with rfl | rfl <;> decide
  · exact fun hmem => absurd (hblanks '"' hmem) (by decide)

/-- **A pair is read off a line exactly if the line holds it**, behind an indent unit or at
    its start. -/
theorem readIndentedPair_eq_some_iff :
    readIndentedPair indent line = some (key, value) ↔ HoldsPair indent line key value := by
  constructor
  · intro h
    rw [readIndentedPair] at h
    split at h
    · rename_i pair hindented
      cases h
      obtain ⟨rest, hafter, hpair⟩ := Option.bind_eq_some_iff.mp hindented
      obtain ⟨hne, hkey, hvalue, tail, htail, rfl⟩ := readPair_eq_some_iff.mp hpair
      obtain ⟨comma, blanks, hcomma, hblanks, rfl⟩ := endsPair_iff.mp htail
      exact ⟨hne, hkey, hvalue, indent, comma, blanks, Or.inr rfl, hcomma, hblanks,
        after?_eq_some_iff.mp hafter⟩
    · obtain ⟨hne, hkey, hvalue, tail, htail, rfl⟩ := readPair_eq_some_iff.mp h
      obtain ⟨comma, blanks, hcomma, hblanks, rfl⟩ := endsPair_iff.mp htail
      exact ⟨hne, hkey, hvalue, [], comma, blanks, Or.inl rfl, hcomma, hblanks, rfl⟩
  · rintro ⟨hne, hkey, hvalue, start, comma, blanks, hstart, hcomma, hblanks, rfl⟩
    have htail := endsPair_iff.mpr ⟨comma, blanks, hcomma, hblanks, rfl⟩
    rcases hstart with rfl | rfl
    · exact readIndentedPair_flush hne hkey hvalue htail (quote_notMem_of_endsPair htail)
    · exact readIndentedPair_indented (readPair_pairText hne hkey hvalue htail)

/-- A line holds at most one pair, whatever the indent unit is made of. -/
theorem HoldsPair.unique {key' value' : List Char} (h : HoldsPair indent line key value)
    (h' : HoldsPair indent line key' value') : key = key' ∧ value = value' := by
  have hread := readIndentedPair_eq_some_iff.mpr h
  rw [readIndentedPair_eq_some_iff.mpr h', Option.some.injEq, Prod.mk.injEq] at hread
  exact ⟨hread.1.symm, hread.2.symm⟩

/-- There is a quote in a line that holds a pair. -/
theorem HoldsPair.quote_mem (h : HoldsPair indent line key value) : '"' ∈ line := by
  obtain ⟨start, comma, blanks, -, -, -, rfl⟩ := h.written
  exact List.mem_append_right start (List.mem_append_left (comma ++ blanks) List.mem_cons_self)

/-- A line is passed over exactly if it holds nothing but white space and a brace at most. -/
theorem verdict_eq_skip_iff :
    verdict indent line = .skip
      ↔ trim line = [] ∨ trim line = ['\x7b'] ∨ trim line = ['\x7d'] := by
  rw [verdict]
  split
  · rename_i hshape
    exact iff_of_true rfl hshape
  · rename_i hshape
    refine iff_of_false ?_ hshape
    split <;> exact nofun

/-- A line is a pair exactly if it holds the pair. -/
theorem verdict_eq_pair_iff {key value : String} :
    verdict indent line = .pair key value ↔ HoldsPair indent line key.toList value.toList := by
  constructor
  · intro h
    rw [verdict] at h
    split at h
    · exact nomatch h
    · split at h
      · rename_i readKey readValue hread
        cases h
        rw [String.toList_ofList, String.toList_ofList]
        exact readIndentedPair_eq_some_iff.mp hread
      · exact nomatch h
  · intro h
    rw [verdict_eq_pair h.quote_mem (readIndentedPair_eq_some_iff.mpr h), String.ofList_toList,
      String.ofList_toList]

/-- A line is malformed exactly if it is neither passed over nor a pair. -/
theorem verdict_eq_malformed_iff :
    verdict indent line = .malformed
      ↔ verdict indent line ≠ .skip ∧ ∀ key value, verdict indent line ≠ .pair key value := by
  cases verdict indent line with
  | skip => exact iff_of_false nofun (fun h => h.1 rfl)
  | malformed => exact iff_of_true rfl ⟨nofun, fun _ _ => nofun⟩
  | pair key value => exact iff_of_false nofun (fun h => h.2 key value rfl)

/-- Nothing is reported about the shape of a line with no white space at its end that is a
    pair or passed over. -/
theorem lineFindings_eq_nil (hend : endsBlank (dropCarriageReturn line) = false)
    (hverdict : verdict indent (dropCarriageReturn line) ≠ .malformed) :
    lineFindings indent line = [] := by
  rw [lineFindings, hend, if_neg Bool.false_ne_true, if_neg hverdict]
  rfl

/-- White space at the end of a line is warned about once, a malformed line is one error,
    and nothing else is reported about the shape of a line. -/
theorem lineFindings_eq_append (indent line : List Char) :
    ∃ trailing malformed : List Finding, lineFindings indent line = trailing ++ malformed
      ∧ (∀ finding ∈ trailing,
          finding.category = .trailingWhitespace ∧ finding.severity = .warning)
      ∧ (∀ finding ∈ malformed,
          finding.category = .malformedLine ∧ finding.severity = .error)
      ∧ trailing.length = (if endsBlank (dropCarriageReturn line) then 1 else 0)
      ∧ malformed.length = (if lineVerdict indent line = .malformed then 1 else 0) := by
  refine ⟨_, _, rfl, ?_, ?_, ?_, ?_⟩
  · intro finding h
    obtain ⟨-, hmem⟩ := List.mem_ite_nil_right.mp h
    rw [List.mem_singleton.mp hmem]
    exact ⟨rfl, rfl⟩
  · intro finding h
    obtain ⟨-, hmem⟩ := List.mem_ite_nil_right.mp h
    rw [List.mem_singleton.mp hmem]
    exact ⟨rfl, rfl⟩
  · split <;> rfl
  · rw [lineVerdict]
    split <;> rfl

/-- **The grammar of lines is exact and unambiguous**, for every indent unit and for every
    line without one carriage return at its end.  A line is passed over if it holds a brace
    at most; it is a pair if it holds that pair, and it holds no other; and any other line is
    malformed.  A malformed line is one error, white space at the end is one warning, and
    there are no other reports. -/
theorem line_grammar_is_exact (indent raw : List Char) :
    let line := dropCarriageReturn raw
    (lineVerdict indent raw = .skip
        ↔ trim line = [] ∨ trim line = ['\x7b'] ∨ trim line = ['\x7d'])
      ∧ (∀ key value, lineVerdict indent raw = .pair key value
          ↔ HoldsPair indent line key.toList value.toList)
      ∧ (∀ key value key' value', HoldsPair indent line key value →
          HoldsPair indent line key' value' → key = key' ∧ value = value')
      ∧ (lineVerdict indent raw = .malformed
          ↔ ¬ (trim line = [] ∨ trim line = ['\x7b'] ∨ trim line = ['\x7d'])
            ∧ ∀ key value, ¬ HoldsPair indent line key value)
      ∧ ∃ trailing malformed : List Finding, lineFindings indent raw = trailing ++ malformed
        ∧ (∀ finding ∈ trailing,
            finding.category = .trailingWhitespace ∧ finding.severity = .warning)
        ∧ (∀ finding ∈ malformed,
            finding.category = .malformedLine ∧ finding.severity = .error)
        ∧ trailing.length = (if endsBlank line then 1 else 0)
        ∧ malformed.length = (if lineVerdict indent raw = .malformed then 1 else 0) := by
  intro line
  refine ⟨verdict_eq_skip_iff, fun key value => verdict_eq_pair_iff,
    fun key value key' value' h h' => h.unique h', ?_, lineFindings_eq_append indent raw⟩
  rw [lineVerdict, verdict_eq_malformed_iff, Ne, verdict_eq_skip_iff]
  refine and_congr_right fun _ => ⟨fun h key value hpair => ?_, fun h key value hverdict => ?_⟩
  · refine h (String.ofList key) (String.ofList value) (verdict_eq_pair_iff.mpr ?_)
    rw [String.toList_ofList, String.toList_ofList]
    exact hpair
  · exact h key.toList value.toList (verdict_eq_pair_iff.mp hverdict)

/-- An indent unit made of a quote: the pair behind it is the one that is read. -/
example : lineVerdict ['"'] "\"\"k\": \"v\"".toList = .pair "k" "v" := by decide

end CatalogLint.Catalog
