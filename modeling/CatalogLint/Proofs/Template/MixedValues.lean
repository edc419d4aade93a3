import CatalogLint.Proofs.Template.Scanners

/-! # Directives whose value goes through a filter

    A directive whose value goes through the filter mixes both ways to refer to a key, so a
    reference that the sweep for filters finds in the value of a directive is to be reported.
    The sweep for mixed directives reads a value as far as its first bar, so it finds the
    directive if the first bar of the value is that of the reference and no angle bracket
    comes before (`readMixed_of_reference`).

    A match may also be lost to an earlier one that reaches over its start.  An opening is
    overlapped by an earlier match only if it follows a bar, so that its name is the word of
    another filter (`exists_bar_of_overlap`).  Otherwise the directive is reported on its line
    (`filters_in_directives_are_reported`). -/

namespace CatalogLint.Template

open Text Unicode
open String (utf8Len)

variable {text rest before : List Char}

/-! ## Mixed directives -/

/-- A directive as far as the word of the filter in its value. -/
def mixedChars (opening : Opening) (inner : List Char) (gap : Gap) : List Char :=
  opening.chars ++ (inner ++ filterChars gap)

/-- A text that an opening begins is not empty. -/
theorem Opens.ne_nil (h : Opens text) : text ≠ [] := by
  obtain ⟨opening, rest, rfl⟩ := h
  rw [Opening.chars_append]
  exact List.cons_ne_nil _ _

/-- A match of the sweep for mixed directives ends with the word of a filter, and it begins
    with an opening, which may be its first character or its second one. -/
theorem of_scanMixed_eq_some {previous : Option Char} {hit : Hit Unit}
    (h : scanMixed previous text = some hit) :
    ∃ lead opening inner gap rest, lead.length ≤ 1 ∧ (∀ c ∈ inner, isInner c = true)
      ∧ text = lead ++ (mixedChars opening inner gap ++ rest)
      ∧ hit.more + 1 = (lead ++ mixedChars opening inner gap).length := by
  rcases of_scanAttribute_eq_some h with
    ⟨-, ⟨⟩, rest, hread, hmore⟩ | ⟨c, behind, ⟨⟩, rest, rfl, -, hread, hmore⟩
  · obtain ⟨opening, inner, gap, hinner, rfl⟩ := readMixed_eq_some_iff.mp hread
    refine ⟨[], opening, inner, gap, rest, Nat.zero_le 1, hinner, ?_, ?_⟩
    · simp only [mixedChars, List.nil_append, List.append_assoc]
    · simp only [hmore, distance, mixedChars, List.nil_append, List.length_append,
        Opening.chars, List.length_singleton]
      omega
  · obtain ⟨opening, inner, gap, hinner, rfl⟩ := readMixed_eq_some_iff.mp hread
    refine ⟨[c], opening, inner, gap, rest, Nat.le_refl 1, hinner, ?_, ?_⟩
    · simp only [mixedChars, List.singleton_append, List.append_assoc]
    · simp only [hmore, distance, mixedChars, List.length_append, List.length_singleton]
      omega

/-- The bar of a filter does not stand in an opening. -/
theorem Opening.bar_notMem (opening : Opening) : '|' ∉ opening.chars := by
  rw [Opening.chars, List.mem_append, not_or]
  exact ⟨opening.notMem_unquoted (by decide) (by decide) (by decide), by decide⟩

/-- No opening begins inside the opening and the value of a mixed directive. -/
theorem not_opens_inside {opening : Opening} {inner front back : List Char} {c : Char}
    (hinner : ∀ c ∈ inner, isInner c = true) (hsplit : opening.chars ++ inner = front ++ c :: back)
    (rest : List Char) : ¬ Opens (back ++ '|' :: rest) := by
  rintro ⟨other, behind, hother⟩
  obtain ⟨inside, rfl, -⟩ := exists_of_append_cons_eq other.bar_notMem hother
  -- both openings end with the only quote before the bar
  have hquote : '"' ∉ inner := fun hmem => absurd (hinner _ hmem) (by decide)
  have hsame : opening.unquoted ++ '"' :: inner
      = (front ++ c :: other.unquoted) ++ '"' :: inside := by
    simpa [Opening.chars] using hsplit
  obtain ⟨hunquoted, -⟩ :=
    (List.append_cons_inj_of_notMem opening.quote_notMem hquote).mp hsame
  have hends : opening.chars = (front ++ [c]) ++ other.chars := by
    simp [Opening.chars, hunquoted]
  have hnil := Opening.eq_nil_of_eq hends
  exact List.append_ne_nil_of_right_ne_nil front (List.cons_ne_nil c []) hnil

/-- Behind the bar of a filter an attribute may stand in the gap before the word only. -/
theorem exists_gap_of_boundary {gap : Gap} {behind : List Char} {c : Char}
    (hc : isBoundary c = true)
    (heq : gap.chars ++ (translateWord ++ rest) = behind ++ c :: text)
    (hreach : behind.length < gap.chars.length + translateWord.length) :
    ∃ blanks : Gap, blanks.chars = behind ++ [c] := by
  rcases List.append_eq_append_iff.mp heq with ⟨inside, rfl, hword⟩ | ⟨inside, hgap, hinside⟩
  · -- the character would stand in the word of the filter
    have hprefix : inside ++ [c] <+: translateWord := by
      have hwhole : inside ++ [c] <+: translateWord ++ rest :=
        ⟨text, by rw [hword, List.append_assoc, List.singleton_append]⟩
      refine List.prefix_of_prefix_length_le hwhole (List.prefix_append _ _) ?_
      rw [List.length_append] at hreach
      rw [List.length_append, List.length_singleton]
      omega
    have hmem : c ∈ translateWord :=
      hprefix.subset (List.mem_append_right inside List.mem_cons_self)
    have hletters : translateWord.all (!isBoundary ·) = true := by decide
    have hletter := List.all_eq_true.mp hletters c hmem
    rw [hc] at hletter
    exact absurd hletter (by decide)
  · cases inside with
    | nil =>
        obtain rfl : c = 't' := (List.cons.inj hinside).1
        exact absurd hc (by decide)
    | cons d inside =>
        obtain rfl : c = d := (List.cons.inj hinside).1
        refine ⟨⟨behind ++ [c], fun d hd => gap.isBlank_chars d ?_⟩, rfl⟩
        rw [hgap]
        simp only [List.mem_append, List.mem_cons, List.not_mem_nil, or_false] at hd ⊢
        tauto

/-- **An opening that a match of the sweep for mixed directives reaches over stands behind the
    bar of a filter.** -/
theorem exists_bar_of_overlap {lead inner second : List Char} {opening : Opening} {gap : Gap}
    {c : Char} (hinner : ∀ c ∈ inner, isInner c = true) (hlead : lead.length ≤ 1)
    (hsecond : second ≠ []) (hc : isBoundary c = true) (hopens : Opens text)
    (heq : second ++ c :: text = lead ++ (mixedChars opening inner gap ++ rest))
    (hreach : second.length < (lead ++ mixedChars opening inner gap).length) :
    ∃ (front : List Char) (blanks : Gap), second ++ [c] = front ++ '|' :: blanks.chars := by
  have hbar : c ≠ '|' := by
    rintro rfl
    exact absurd hc (by decide)
  -- the first character of the match stands before the opening
  obtain ⟨second, rfl⟩ : lead <+: second := by
    refine List.prefix_of_prefix_length_le ⟨_, heq.symm⟩ (List.prefix_append _ _) ?_
    exact hlead.trans (List.length_pos_iff.mpr hsecond)
  rw [List.append_assoc, List.append_cancel_left_eq] at heq
  have hsplit : second ++ c :: text
      = (opening.chars ++ inner) ++ '|' :: (gap.chars ++ (translateWord ++ rest)) := by
    simpa [mixedChars, filterChars] using heq
  rcases List.append_eq_append_iff.mp hsplit with
    ⟨back, hbefore, hrest⟩ | ⟨behind, rfl, hrest⟩
  · -- the character stands before the bar
    cases back with
    | nil => exact absurd (List.cons.inj hrest).1 hbar
    | cons d back =>
        obtain ⟨rfl, rfl⟩ := List.cons.inj hrest
        exact absurd hopens (not_opens_inside hinner hbefore _)
  · cases behind with
    | nil => exact absurd (List.cons.inj hrest).1.symm hbar
    | cons d behind =>
        obtain ⟨rfl, hbehind⟩ := List.cons.inj hrest
        simp only [mixedChars, filterChars, List.length_append, List.length_cons] at hreach
        obtain ⟨blanks, hblanks⟩ := exists_gap_of_boundary hc hbehind (by omega)
        refine ⟨lead ++ (opening.chars ++ inner), blanks, ?_⟩
        rw [hblanks]
        simp only [List.append_assoc, List.cons_append]

/-! ## Directives that are found -/

/-- The last character of a text that is not white space stays when the text is trimmed. -/
theorem getLast?_trimEnd_append {c : Char} (hc : isBlank c = false) (front : List Char)
    (blanks : Gap) : (trimEnd (front ++ c :: blanks.chars)).getLast? = some c := by
  have hblanks : ∀ d ∈ blanks.chars.reverse, isBlank d = true :=
    fun d hd => blanks.isBlank_chars d (List.mem_reverse.mp hd)
  rw [trimEnd, List.reverse_append, List.reverse_cons, List.append_assoc, List.singleton_append,
    dropWhile_append_cons hblanks hc, List.reverse_cons, List.reverse_reverse,
    List.getLast?_concat]

/-- A directive that can be read as a mixed one is found, unless its name is the word of a
    filter. -/
theorem exists_mem_matchesOf_scanMixed (hread : readMixed text = some ((), rest))
    (hbefore : ∀ c ∈ before.getLast?, isBoundary c = true)
    (hfilter : (trimEnd before).getLast? ≠ some '|') :
    ∃ found ∈ matchesOf scanMixed (before ++ text), found.ahead = before := by
  have hopens : Opens text := readsOpenings_readMixed _ _ hread
  rcases List.eq_nil_or_concat before with rfl | ⟨front, c, rfl⟩
  · have hscan : scanMixed none text = some { value := (), more := distance text rest - 1 } :=
      scanAttribute_start hread
    refine ⟨⟨[], _, text⟩, mem_matchesOf hscan hopens.ne_nil ?_, rfl⟩
    intro first second other hsplit hsecond
    exact absurd (List.append_eq_nil_iff.mp hsplit.symm).2 hsecond
  · rw [List.concat_eq_append] at hbefore hfilter ⊢
    have hc : isBoundary c = true := hbefore c (List.getLast?_concat ..)
    have hscan : scanMixed front.getLast? (c :: text)
        = some { value := (), more := distance text rest, offset := 1 } :=
      scanAttribute_boundary readsOpenings_readMixed hc hread
    refine ⟨⟨front, { value := (), more := distance text rest, offset := 1 }, c :: text⟩, ?_, rfl⟩
    rw [List.append_assoc, List.singleton_append]
    refine mem_matchesOf hscan (List.cons_ne_nil c text) ?_
    rintro first second other rfl hsecond hother
    -- an earlier match that reaches over the opening would leave a bar before it
    obtain ⟨lead, opening, inner, gap, behind, hlead, hinner, hwritten, hmore⟩ :=
      of_scanMixed_eq_some hother
    by_contra hreach
    obtain ⟨ahead, blanks, hbar⟩ :=
      exists_bar_of_overlap hinner hlead hsecond hc hopens hwritten (by omega)
    refine hfilter ?_
    rw [List.append_assoc, hbar, ← List.append_assoc]
    exact getLast?_trimEnd_append (by decide) (first ++ ahead) blanks

/-! ## References in the values of directives -/

/-- A directive with its value. -/
structure Directive where
  opening : Opening
  value : List Char
  quote_notMem : '"' ∉ value

/-- A directive as it is written. -/
def Directive.chars (directive : Directive) : List Char :=
  directive.opening.chars ++ (directive.value ++ ['"'])

/-- A reference that the sweep for filters finds in the value of a directive, behind the
    front of the value. -/
structure RefersIn (before : List Char) (directive : Directive) (after front : List Char)
    (reference : Match (List Char)) : Prop where
  found : reference ∈ matchesOf scanFilter (before ++ (directive.chars ++ after))
  place : reference.before = before ++ (directive.opening.chars ++ front)
  inside : (front ++ reference.matched).length ≤ directive.value.length

/-- A reference in the value of a directive is a part of the value. -/
theorem RefersIn.exists_value_eq {directive : Directive} {after front : List Char}
    {reference : Match (List Char)} (h : RefersIn before directive after front reference) :
    ∃ back, directive.value = front ++ (reference.matched ++ back) := by
  have hcontent := (of_mem_matchesOf h.found).1
  simp only [h.place, Directive.chars, List.append_assoc, List.append_cancel_left_eq] at hcontent
  have hmatched : front ++ reference.matched <+: front ++ reference.rest :=
    (List.prefix_append_right_inj front).mpr (List.take_prefix _ _)
  have hvalue : directive.value <+: front ++ reference.rest := ⟨['"'] ++ after, hcontent⟩
  obtain ⟨back, hback⟩ := List.prefix_of_prefix_length_le hmatched hvalue h.inside
  exact ⟨back, by rw [← hback, List.append_assoc]⟩

/-- White space is none of the marks that end the search for a bar. -/
theorem isInner_of_isBlank {c : Char} (h : isBlank c = true) : isInner c = true := by
  by_contra hinner
  have hmark : c = '<' ∨ c = '>' ∨ c = '|' ∨ c = '"' := by
    simp only [isInner, Bool.and_eq_true, bne_iff_ne] at hinner
    tauto
  rcases hmark with rfl | rfl | rfl | rfl <;> exact absurd h (by decide)

/-- A directive is read as a mixed one if a reference is a part of its value, with no bar and
    no angle bracket before the bar of the reference. -/
theorem readMixed_of_reference {reference : Match (List Char)} {directive : Directive}
    {front back : List Char}
    (hreference : scanFilter reference.before.getLast? reference.rest = some reference.hit)
    (hvalue : directive.value = front ++ (reference.matched ++ back))
    (hfirst : ∀ c ∈ front ++ reference.hit.value, c ≠ '<' ∧ c ≠ '>' ∧ c ≠ '|')
    (after : List Char) :
    readMixed (directive.chars ++ after) = some ((), back ++ '"' :: after) := by
  obtain ⟨key, gap, gap', tail, -, hrest, -, hhit⟩ := scanFilter_eq_some_iff.mp hreference
  have hmatched : reference.matched = quotedChars key gap gap' := by
    rw [Match.matched, hhit, hrest]
    exact List.take_left' (by simp [quotedChars])
  rw [hmatched] at hvalue
  rw [hhit] at hfirst
  have hinner : ∀ c ∈ front ++ '\'' :: (key ++ '\'' :: gap.chars), isInner c = true := by
    intro c hc
    have hquote : c ≠ '"' := by
      rintro rfl
      refine directive.quote_notMem ?_
      rw [hvalue]
      simp only [quotedChars, List.mem_append, List.mem_cons] at hc ⊢
      tauto
    have hpart : c ∈ front ++ key ∨ c = '\'' ∨ isBlank c = true := by
      simp only [List.mem_append, List.mem_cons] at hc ⊢
      have hgap := gap.isBlank_chars c
      tauto
    rcases hpart with hmem | rfl | hblank
    · obtain ⟨hopen, hclose, hbar⟩ := hfirst c hmem
      simp [isInner, hopen, hclose, hbar, hquote]
    · decide
    · exact isInner_of_isBlank hblank
  refine readMixed_eq_some_iff.mpr ⟨directive.opening, _, gap', hinner, ?_⟩
  simp only [Directive.chars, hvalue, quotedChars, List.append_assoc, List.cons_append,
    List.nil_append]

/-- **A filter in the value of a directive is reported on the line of the directive**, if no
    bar and no angle bracket comes before the bar of the filter in the value, and the name of
    the directive is not itself the word of a filter. -/
theorem filters_in_directives_are_reported (name : String) {before after front : List Char}
    {directive : Directive} {reference : Match (List Char)}
    (hbefore : ∀ c ∈ before.getLast?, isBlank c = true ∨ c = '<')
    (hreference : RefersIn before directive after front reference)
    (hfirst : ∀ c ∈ front ++ reference.hit.value, c ≠ '<' ∧ c ≠ '>' ∧ c ≠ '|')
    (hfilter : (trimEnd before).getLast? ≠ some '|') :
    { category := .mixedTranslateSyntax
      severity := .error
      message := "Do NOT mix the translate directive and the translate filter. File in error: "
        ++ name
      line := some (lineOf (before ++ (directive.chars ++ after)) (utf8Len before))
      file := some name } ∈ mixedFindings name (before ++ (directive.chars ++ after)) := by
  have hscan := (of_mem_matchesOf hreference.found).2
  obtain ⟨back, hvalue⟩ := hreference.exists_value_eq
  have hread := readMixed_of_reference hscan hvalue hfirst after
  have hboundary : ∀ c ∈ before.getLast?, isBoundary c = true := by
    intro c hc
    simpa [isBoundary] using hbefore c hc
  obtain ⟨found, hfound, hahead⟩ := exists_mem_matchesOf_scanMixed hread hboundary hfilter
  rw [mixedFindings, sweep_eq_map_lineOf, List.map_map, List.mem_map]
  refine ⟨found, hfound, ?_⟩
  rw [← hahead]
  rfl

/-- A directive on the second line of a template, with one filter in its value. -/
theorem a_filter_in_a_directive_is_reported :
    let gap : Gap := ⟨[], nofun⟩
    let value := "\x7b\x7b 'K' | translate \x7d\x7d".toList
    let directive : Directive := ⟨⟨gap, gap⟩, value, by decide⟩
    let content := "<p\n ".toList ++ (directive.chars ++ ">".toList)
    (∃ reference, RefersIn "<p\n ".toList directive ">".toList "\x7b\x7b ".toList reference)
    ∧ { category := .mixedTranslateSyntax
        severity := .error
        message := "Do NOT mix the translate directive and the translate filter. "
          ++ "File in error: view.html"
        line := some 2
        file := some "view.html" } ∈ mixedFindings "view.html" content := by
  intro gap value directive content
  have hreference : RefersIn "<p\n ".toList directive ">".toList "\x7b\x7b ".toList
      ⟨"<p\n translate=\"\x7b\x7b ".toList, ⟨['K'], 14, 1⟩, "'K' | translate \x7d\x7d\">".toList⟩ :=
    ⟨List.mem_singleton.mpr rfl, rfl, by decide⟩
  have hbefore : ∀ c ∈ "<p\n ".toList.getLast?, isBlank c = true ∨ c = '<' := by
    intro c hc
    obtain rfl : ' ' = c := Option.some.inj hc
    decide
  have hfirst : ∀ c ∈ "\x7b\x7b ".toList ++ ['K'], c ≠ '<' ∧ c ≠ '>' ∧ c ≠ '|' := by
    simp
  refine ⟨⟨_, hreference⟩, ?_⟩
  exact filters_in_directives_are_reported "view.html" hbefore hreference hfirst (by decide)

/-- A filter stands in the value of a directive, and nothing is reported on its line. -/
def Missed (before : List Char) (directive : Directive) (after : List Char) : Prop :=
  (∃ front reference, RefersIn before directive after front reference)
    ∧ ∀ finding ∈ mixedFindings "view.html" (before ++ (directive.chars ++ after)),
      finding.line ≠ some (lineOf (before ++ (directive.chars ++ after)) (utf8Len before))

/-- Filters are missed behind other bars, behind angle brackets, and in a directive whose name
    is the word of another filter. -/
theorem filters_behind_other_marks_are_missed :
    let gap : Gap := ⟨[], nofun⟩
    let bars := "\x7b\x7b a || 'K' | translate \x7d\x7d".toList
    let bracket := "\x7b\x7b a < b && 'K' | translate \x7d\x7d".toList
    let plain := "'K' | translate".toList
    Missed "<p ".toList ⟨⟨gap, gap⟩, bars, by decide⟩ "></p>".toList
    ∧ Missed "<p ".toList ⟨⟨gap, gap⟩, bracket, by decide⟩ "></p>".toList
    ∧ Missed "<p translate=\"a |\n".toList ⟨⟨gap, gap⟩, plain, by decide⟩ "></p>".toList := by
  intro gap bars bracket plain
  have hbars : RefersIn "<p ".toList ⟨⟨gap, gap⟩, bars, by decide⟩ "></p>".toList
      "\x7b\x7b a || ".toList
      ⟨"<p translate=\"\x7b\x7b a || ".toList, ⟨['K'], 14, 1⟩,
        "'K' | translate \x7d\x7d\"></p>".toList⟩ :=
    ⟨List.mem_singleton.mpr rfl, rfl, by decide⟩
  have hbracket : RefersIn "<p ".toList ⟨⟨gap, gap⟩, bracket, by decide⟩ "></p>".toList
      "\x7b\x7b a < b && ".toList
      ⟨"<p translate=\"\x7b\x7b a < b && ".toList, ⟨['K'], 14, 1⟩,
        "'K' | translate \x7d\x7d\"></p>".toList⟩ :=
    ⟨List.mem_singleton.mpr rfl, rfl, by decide⟩
  have hplain : RefersIn "<p translate=\"a |\n".toList ⟨⟨gap, gap⟩, plain, by decide⟩
      "></p>".toList []
      ⟨"<p translate=\"a |\ntranslate=\"".toList, ⟨['K'], 14, 1⟩,
        "'K' | translate\"></p>".toList⟩ :=
    ⟨List.mem_singleton.mpr rfl, rfl, by decide⟩
  exact ⟨⟨⟨_, _, hbars⟩, by decide +kernel⟩, ⟨⟨_, _, hbracket⟩, by decide +kernel⟩,
    ⟨⟨_, _, hplain⟩, by decide +kernel⟩⟩

end CatalogLint.Template
