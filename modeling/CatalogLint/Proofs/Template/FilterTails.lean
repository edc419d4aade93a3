import CatalogLint.Proofs.Template.Written

/-! # What stands behind the word of a filter

    A filter in braces may have something behind its word, such as arguments.  Whether its
    operand is quoted or not, the braces hold the same text otherwise (`filtered`), but the two
    sweeps do not ask for the same behind the word.

    * The sweep for quoted keys asks that the word ends, so it finds the key before arguments
      too (`reference_mem_references`).
    * The sweep for operands that are not quoted asks for the closing braces, so it finds
      nothing if anything but white space stands before them (`scanOperand_filtered`).

    So an operand before arguments is neither a reference nor reported
    (`operands_are_reported_before_white_space_only`). -/

namespace CatalogLint.Template

open Text Unicode
open String (utf8Len)

/-! ## Filters in braces -/

/-- What stands between the word of a filter and the closing braces: neither quotes nor
    braces. -/
structure FilterTail where
  chars : List Char
  quote_notMem : '\'' ∉ chars
  opener_notMem : '\x7b' ∉ chars
  closer_notMem : '\x7d' ∉ chars

/-- A character that ends the search for the bar behind an operand, or makes a call of it. -/
def isOperandMark (c : Char) : Bool :=
  c == '\'' || c == '"' || c == '|' || c == '\x7b' || c == '\x7d' || c == '('

/-- The operand of a filter that is neither quoted nor a call: not only white space. -/
structure BareOperand where
  chars : List Char
  isOperandMark_chars : ∀ c ∈ chars, isOperandMark c = false
  exists_visible : ∃ c ∈ chars, isBlank c = false

/-- A filter in braces, with its operand and what stands behind its word. -/
def filtered (operand tail : List Char) : List Char :=
  "\x7b\x7b ".toList ++ (operand ++ (" | translate".toList ++ (tail ++ "\x7d\x7d".toList)))

/-- A key in the quotes of a filter. -/
def quoted (key : List Char) : List Char :=
  '\'' :: (key ++ ['\''])

/-- A single space between two marks. -/
def oneSpace : Gap :=
  ⟨[' '], List.forall_mem_singleton.mpr (by decide)⟩

variable {tail : FilterTail} {operand : BareOperand} {key : List Char}

/-- A filter in braces is written around its bar. -/
theorem filtered_eq (operand tail : List Char) :
    filtered operand tail
      = '\x7b' :: '\x7b' :: ((' ' :: (operand ++ [' ']))
        ++ (filterChars oneSpace ++ (tail ++ ['\x7d', '\x7d']))) := by
  have hword : " | translate".toList = ' ' :: filterChars oneSpace := by decide
  have hopen : "\x7b\x7b ".toList = ['\x7b', '\x7b', ' '] := by decide
  have hclose : "\x7d\x7d".toList = ['\x7d', '\x7d'] := by decide
  simp only [filtered, hword, hopen, hclose, List.cons_append, List.append_assoc, List.nil_append]

/-! ## Quoted keys -/

/-- **The sweep for references finds a quoted key if the word of its filter ends**, whatever
    arguments follow. -/
theorem reference_mem_references (hkey : IsKey '\'' key) (htail : startsInWord tail.chars = false) :
    ⟨String.ofList key, 1⟩ ∈ references (filtered (quoted key) tail.chars) := by
  have hends : startsInWord (tail.chars ++ ['\x7d', '\x7d']) = false := by
    cases hchars : tail.chars with
    | nil => decide
    | cons c more => rwa [hchars] at htail
  have hwritten : filtered (quoted key) tail.chars
      = "\x7b\x7b ".toList
        ++ (quotedChars key oneSpace oneSpace ++ (tail.chars ++ ['\x7d', '\x7d'])) := by
    rw [filtered_eq]
    simp [quoted, quotedChars, oneSpace]
  have hscan := (@scanFilter_eq_some_iff _ "\x7b\x7b ".toList.getLast? _).mpr
    ⟨key, oneSpace, oneSpace, _, hkey, rfl, hends, rfl⟩
  have hfound := beginsWith_scanFilter.mem_matchesOf (by decide) hscan (by simp [quotedChars])
  rw [hwritten, references, sweep_eq_map_lineOf scanFilter, List.map_map]
  refine List.mem_append_right _ (List.mem_map.mpr ⟨_, hfound, ?_⟩)
  show (⟨String.ofList key, lineOf _ (Match.place _)⟩ : Reference) = _
  rw [lineOf_place (of_mem_matchesOf hfound).1]
  rfl

/-! ## Operands that are not quoted -/

/-- A mark that ends an operand does not stand in one. -/
theorem BareOperand.notMem {c : Char} (hc : isOperandMark c = true) (operand : BareOperand) :
    c ∉ operand.chars :=
  notMem_of_forall_eq operand.isOperandMark_chars hc

/-- Behind a text that is not all white space, nothing is skipped. -/
theorem skipBlanks_append_of_ne_nil {text : List Char} (h : skipBlanks text ≠ [])
    (rest : List Char) : skipBlanks (text ++ rest) = skipBlanks text ++ rest := by
  have hne : (text.dropWhile isBlank).isEmpty = false := List.isEmpty_eq_false_iff.mpr h
  rw [skipBlanks, List.dropWhile_append, hne]
  rfl

/-- The white space behind the word of a filter is skipped as far as the closing braces if
    nothing else stands there. -/
theorem skipBlanks_tail_append (tail : FilterTail) :
    if tail.chars.all isBlank then
      skipBlanks (tail.chars ++ ['\x7d', '\x7d']) = ['\x7d', '\x7d']
    else ∃ c more, skipBlanks (tail.chars ++ ['\x7d', '\x7d']) = c :: more ∧ c ≠ '\x7d' := by
  split
  · rename_i hblank
    exact dropWhile_append_cons (List.all_eq_true.mp hblank) (by decide) ['\x7d']
  · rename_i hvisible
    have hne : skipBlanks tail.chars ≠ [] := by
      intro hnil
      exact hvisible (List.all_eq_true.mpr (List.dropWhile_eq_nil_iff.mp hnil))
    obtain ⟨c, more, hskip⟩ := List.exists_cons_of_ne_nil hne
    refine ⟨c, more ++ ['\x7d', '\x7d'], ?_, ?_⟩
    · rw [skipBlanks_append_of_ne_nil hne, hskip, List.cons_append]
    · rintro rfl
      have hmem : '\x7d' ∈ skipBlanks tail.chars := hskip ▸ List.mem_cons_self
      exact tail.closer_notMem ((List.dropWhile_suffix isBlank).subset hmem)

/-- **An operand that is not quoted is found if white space alone stands between the word of
    its filter and the closing braces**, and nothing is found otherwise. -/
theorem scanOperand_filtered (previous : Option Char) (operand : BareOperand) (tail : FilterTail) :
    scanOperand previous (filtered operand.chars tail.chars)
      = if tail.chars.all isBlank then
          some {
            value := skipBlanks operand.chars ++ [' ']
            more := (filtered operand.chars tail.chars).length - 1
            offset := (operand.chars.takeWhile isBlank).length + 3 }
        else none := by
  have hrun : ∀ rest, (' ' :: (operand.chars ++ [' ']) ++ (filterChars oneSpace ++ rest)).takeWhile
      (fun c => c != '\'' && c != '|' && c != '\x7b' && c != '\x7d')
        = ' ' :: (operand.chars ++ [' ']) := by
    intro rest
    refine takeWhile_append_cons ?_ (by decide) _
    intro c hc
    have hmark : isOperandMark c = false := by
      simp only [List.mem_cons, List.mem_append, List.not_mem_nil, or_false] at hc
      rcases hc with rfl | hmem | rfl
      · decide
      · exact operand.isOperandMark_chars c hmem
      · decide
    simp only [isOperandMark, Bool.or_eq_false_iff] at hmark
    simp [bne, hmark]
  have hoperand : operandOf (' ' :: (operand.chars ++ [' ']))
      = skipBlanks operand.chars ++ [' '] := by
    have hskip : skipBlanks (' ' :: (operand.chars ++ [' '])) = skipBlanks operand.chars ++ [' '] :=
      skipBlanks_append_of_ne_nil (skipBlanks_ne_nil operand.exists_visible) [' ']
    rw [operandOf, hskip]
    split
    · rename_i hnil
      exact absurd hnil (by simp)
    · rfl
  have hlength : (operand.chars.takeWhile isBlank).length + (skipBlanks operand.chars).length
      = operand.chars.length := by
    rw [← List.length_append, skipBlanks, List.takeWhile_append_dropWhile]
  rw [filtered_eq, scanOperand, hrun]
  simp only [List.drop_left, afterFilter?_filterChars, hoperand]
  have htail := skipBlanks_tail_append tail
  split at htail
  · rename_i hblank
    rw [htail, if_pos hblank]
    simp [distance]
    omega
  · rename_i hvisible
    obtain ⟨c, more, hskip, hc⟩ := htail
    rw [hskip, if_neg hvisible]
    split
    · rfl
    · split
      · rename_i heq
        exact absurd (List.cons.inj heq).1 hc
      · rfl

/-- The braces before an operand are not missed by a sweep over the whole filter. -/
theorem matchesOf_filtered (operand : BareOperand) (tail : FilterTail) :
    matchesOf scanOperand (filtered operand.chars tail.chars)
      = if tail.chars.all isBlank then
          [{ before := []
             hit := {
               value := skipBlanks operand.chars ++ [' ']
               more := (filtered operand.chars tail.chars).length - 1
               offset := (operand.chars.takeWhile isBlank).length + 3 }
             rest := filtered operand.chars tail.chars }]
        else [] := by
  have hscan := scanOperand_filtered none operand tail
  split
  · rename_i hblank
    rw [if_pos hblank] at hscan
    refine matchesOf_whole hscan ?_
    rw [filtered_eq]
    rfl
  · rename_i hvisible
    rw [if_neg hvisible, filtered_eq, ← List.append_nil (_ ++ _)] at hscan
    rw [filtered_eq, matchesOf, ← List.append_nil (_ ++ _),
      matchesFrom_scanOperand_braces (by simp) ?_ hscan]
    · rfl
    · have hword : '\x7b' ∉ filterChars oneSpace := by decide
      have hoperand : '\x7b' ∉ operand.chars := operand.notMem (by decide)
      simp [hword, hoperand, tail.opener_notMem]

/-! ## What is reported -/

/-- The white space around an operand is not part of what is reported. -/
theorem trim_skipBlanks_append (operand : BareOperand) :
    trim (skipBlanks operand.chars ++ [' ']) = trim operand.chars := by
  have hstart : trimStart (skipBlanks operand.chars ++ [' '])
      = skipBlanks operand.chars ++ [' '] := by
    have hidem : skipBlanks (skipBlanks operand.chars) = skipBlanks operand.chars :=
      List.dropWhile_idempotent isBlank operand.chars
    have hne : skipBlanks (skipBlanks operand.chars) ≠ [] := by
      rw [hidem]
      exact skipBlanks_ne_nil operand.exists_visible
    exact (skipBlanks_append_of_ne_nil hne [' ']).trans (by rw [hidem])
  rw [trim, hstart, trimEnd, List.reverse_append]
  rfl

/-- **Arguments may follow a quoted key, but not an operand that is not quoted.**  A quoted key
    is a reference if the word of its filter ends, whatever follows it in the braces.  An operand
    is reported, on the line of its first character that is not white space, if white space alone
    follows the word of its filter in the braces.  If anything else does, nothing is reported. -/
theorem operands_are_reported_before_white_space_only (name : String) (operand : BareOperand)
    (tail : FilterTail) (hkey : IsKey '\'' key) :
    let content := filtered operand.chars tail.chars
    (startsInWord tail.chars = false →
      ⟨String.ofList key, 1⟩ ∈ references (filtered (quoted key) tail.chars))
    ∧ malformedFindings name content
        = if tail.chars.all isBlank then
            [{ category := .malformedFilter
               severity := .error
               message := "Malformed declaration with the translate filter in " ++ name
                 ++ ". The key must be surrounded with quotes. Key name: "
                 ++ String.ofList (trim operand.chars)
               line := some (lineOf content
                 (utf8Len ("\x7b\x7b ".toList ++ operand.chars.takeWhile isBlank)))
               file := some name }]
          else [] := by
  intro content
  refine ⟨reference_mem_references hkey, ?_⟩
  have hcall : (skipBlanks operand.chars ++ [' ']).contains '(' = false := by
    rw [List.contains_append, contains_skipBlanks, List.contains_eq_mem, List.contains_eq_mem,
      decide_eq_false (operand.notMem (by decide))]
    rfl
  -- the place that is reported is the end of the white space before the operand
  have hahead : (filtered operand.chars tail.chars).take
      ((operand.chars.takeWhile isBlank).length + 3)
        = "\x7b\x7b ".toList ++ operand.chars.takeWhile isBlank := by
    have hprefix : "\x7b\x7b ".toList ++ operand.chars.takeWhile isBlank
        <+: filtered operand.chars tail.chars := by
      rw [filtered, List.prefix_append_right_inj]
      exact (List.takeWhile_prefix _).trans (List.prefix_append _ _)
    rw [List.prefix_iff_eq_take.mp hprefix, List.length_append, Nat.add_comm]
    rfl
  rw [malformedFindings, sweep_eq_map_lineOf, matchesOf_filtered]
  split
  · simp only [List.map_cons, List.map_nil, List.filter_cons, hcall, Match.place, Match.ahead,
      List.nil_append, hahead, Bool.not_false, if_true, List.filter_nil, trim_skipBlanks_append]
    rfl
  · rfl

/-- An operand on the second line of a template, with a line feed between the word of its filter
    and the closing braces. -/
theorem an_operand_before_a_line_feed_is_reported :
    let tail : FilterTail := ⟨['\n'], by decide, by decide, by decide⟩
    let operand : BareOperand := ⟨"\n vm.key".toList, by simp [isOperandMark],
      ⟨'v', by decide, by decide⟩⟩
    IsKey '\'' "KEY".toList
    ∧ ⟨"KEY", 1⟩ ∈ references "\x7b\x7b 'KEY' | translate\n\x7d\x7d".toList
    ∧ malformedFindings "view.html" (filtered operand.chars tail.chars)
      = [{ category := .malformedFilter
           severity := .error
           message := "Malformed declaration with the translate filter in view.html. "
             ++ "The key must be surrounded with quotes. Key name: vm.key"
           line := some 2
           file := some "view.html" }] := by
  intro tail operand
  have hkey : IsKey '\'' "KEY".toList := ⟨by decide, List.all_eq_true.mp (by decide)⟩
  have h := operands_are_reported_before_white_space_only "view.html" operand tail hkey
  exact ⟨hkey, h.1 (by decide +kernel), h.2⟩

/-- Before arguments a quoted key is a reference, and an operand that is not quoted is neither a
    reference nor reported. -/
theorem operands_before_arguments_are_missed :
    let tail : FilterTail := ⟨":vm.params ".toList, by decide, by decide, by decide⟩
    let operand : BareOperand := ⟨"KEY".toList, by simp [isOperandMark],
      ⟨'K', by decide, by decide⟩⟩
    references (filtered (quoted "KEY".toList) tail.chars) = [⟨"KEY", 1⟩]
    ∧ references (filtered operand.chars tail.chars) = []
    ∧ malformedFindings "view.html" (filtered operand.chars tail.chars) = [] := by
  intro tail operand
  exact ⟨by decide +kernel, by decide +kernel, by decide +kernel⟩

end CatalogLint.Template
