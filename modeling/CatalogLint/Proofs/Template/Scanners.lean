import CatalogLint.Proofs.Text.Marks
import CatalogLint.Proofs.Text.Places
import CatalogLint.Template.Reference
import Mathlib.Data.List.Basic
import Mathlib.Data.List.TakeWhile

/-! # Scanners for references

    What the scanners for references recognize, as it is written.  A directive opens with its
    name, an equals sign and a quote (`Opening`), a filter is a bar and its word
    (`filterChars`), and white space may stand between the marks of either (`Gap`).  Each
    reader accepts just the texts that are written so.

    Openings do not overlap: none ends another one that is longer (`Opening.eq_nil_of_eq`).
    So a text whose first quote belongs to an opening has no other opening before it. -/

namespace CatalogLint.Template

open Text Unicode

variable {α : Type} {text rest key front : List Char}

/-! ## White space between marks -/

/-- White space that may stand between two marks. -/
structure Gap where
  chars : List Char
  isBlank_chars : ∀ c ∈ chars, isBlank c = true

namespace Gap

/-- A gap holds nothing but white space. -/
theorem notMem {c : Char} (hc : isBlank c = false) (gap : Gap) : c ∉ gap.chars :=
  notMem_of_forall_eq gap.isBlank_chars hc

/-- A gap is skipped as far as the next mark. -/
theorem skipBlanks_append {c : Char} (hc : isBlank c = false) (gap : Gap) (rest : List Char) :
    skipBlanks (gap.chars ++ c :: rest) = c :: rest :=
  dropWhile_append_cons gap.isBlank_chars hc rest

/-- What is skipped is a gap. -/
theorem exists_append (text : List Char) : ∃ gap : Gap, text = gap.chars ++ skipBlanks text :=
  ⟨⟨text.takeWhile isBlank, fun _ hc => List.mem_takeWhile_imp hc⟩,
    List.takeWhile_append_dropWhile.symm⟩

end Gap

/-- A text that is not all white space is not skipped as a whole. -/
theorem skipBlanks_ne_nil (h : ∃ c ∈ text, isBlank c = false) : skipBlanks text ≠ [] := by
  obtain ⟨c, hc, hvisible⟩ := h
  intro hnil
  exact notMem_of_forall_eq (List.dropWhile_eq_nil_iff.mp hnil) hvisible hc

/-- White space is not part of a word. -/
theorem isWord_of_isBlank {c : Char} (h : isBlank c = true) : isWord c = false := by
  have hcodes : ∀ code ∈ [0x9, 0xA, 0xB, 0xC, 0xD, 0x20, 0x85, 0xA0, 0x1680, 0x2000, 0x2001,
      0x2002, 0x2003, 0x2004, 0x2005, 0x2006, 0x2007, 0x2008, 0x2009, 0x200A, 0x2028, 0x2029,
      0x202F, 0x205F, 0x3000], isWord (Char.ofNat code) = false := by
    decide +kernel
  rw [← Char.ofNat_toNat c]
  refine hcodes _ ?_
  simp only [isBlank, Bool.or_eq_true, Bool.and_eq_true, decide_eq_true_eq, beq_iff_eq] at h
  simp only [List.mem_cons, List.not_mem_nil, or_false]
  omega

/-! ## Openings of directives -/

/-- The start of a directive, which may have gaps around its equals sign. -/
structure Opening where
  beforeSign : Gap
  afterSign : Gap

namespace Opening

/-- An opening as far as its quote. -/
def unquoted (opening : Opening) : List Char :=
  translateWord ++ (opening.beforeSign.chars ++ '=' :: opening.afterSign.chars)

/-- An opening as it is written. -/
def chars (opening : Opening) : List Char :=
  opening.unquoted ++ ['"']

/-- A mark other than the equals sign does not stand before the quote of an opening. -/
theorem notMem_unquoted {c : Char} (hblank : isBlank c = false) (hsign : c ≠ '=')
    (hword : c ∉ translateWord) (opening : Opening) : c ∉ opening.unquoted := by
  simp only [unquoted, List.mem_append, List.mem_cons, not_or]
  exact ⟨hword, opening.beforeSign.notMem hblank, hsign, opening.afterSign.notMem hblank⟩

/-- The quote of an opening is its only one. -/
theorem quote_notMem (opening : Opening) : '"' ∉ opening.unquoted :=
  opening.notMem_unquoted (by decide) (by decide) (by decide)

/-- An opening begins with its name. -/
theorem chars_append (opening : Opening) (rest : List Char) :
    opening.chars ++ rest
      = translateWord ++ (opening.beforeSign.chars
        ++ '=' :: (opening.afterSign.chars ++ '"' :: rest)) := by
  simp only [chars, unquoted, List.append_assoc, List.cons_append, List.nil_append]

/-- **No opening ends another one that is longer.** -/
theorem eq_nil_of_eq {opening other : Opening} (h : opening.chars = front ++ other.chars) :
    front = [] := by
  have hname : translateWord = ['t', 'r', 'a', 'n', 's', 'l', 'a', 't'] ++ ['e'] := rfl
  -- the equals signs are the last ones, so the same stands before them
  have hbefore : translateWord ++ opening.beforeSign.chars
      = front ++ (translateWord ++ other.beforeSign.chars) := by
    have hfree : '=' ∉ translateWord ++ opening.beforeSign.chars := by
      rw [List.mem_append, not_or]
      exact ⟨by decide, opening.beforeSign.notMem (by decide)⟩
    have hfree' : '=' ∉ opening.afterSign.chars ++ ['"'] := by
      rw [List.mem_append, not_or]
      exact ⟨opening.afterSign.notMem (by decide), by decide⟩
    simp only [chars, unquoted, ← List.append_assoc, List.append_assoc _ ('=' :: _),
      List.cons_append] at h
    simp only [← List.append_assoc]
    exact ((List.append_cons_inj_of_notMem hfree hfree').mp h).1
  -- the name ends with the last of its letters, which no gap holds
  rw [hname] at hbefore
  simp only [List.append_assoc, List.singleton_append] at hbefore
  rw [← List.append_assoc front] at hbefore
  have hwhole := (List.append_cons_inj_of_notMem (by decide)
    (opening.beforeSign.notMem (by decide))).mp hbefore
  exact List.append_left_eq_self.mp hwhole.1.symm

/-- The first quote of a text ends no more than one opening. -/
theorem eq_nil_of_append_eq {opening other : Opening} {rest' : List Char} (hfront : '"' ∉ front)
    (h : opening.chars ++ rest = front ++ (other.chars ++ rest')) : front = [] := by
  have hquote : '"' ∉ front ++ other.unquoted := by
    rw [List.mem_append, not_or]
    exact ⟨hfront, other.quote_notMem⟩
  have hsame : opening.unquoted ++ '"' :: rest = (front ++ other.unquoted) ++ '"' :: rest' := by
    simpa [chars] using h
  have hunquoted := congrArg (List.takeWhile (· != '"')) hsame
  rw [takeWhile_append_stop opening.quote_notMem, takeWhile_append_stop hquote] at hunquoted
  refine @eq_nil_of_eq front opening other ?_
  rw [chars, chars, hunquoted, List.append_assoc]

end Opening

/-- An opening is read where it is written. -/
theorem afterAssignment?_opening (opening : Opening) (rest : List Char) :
    afterAssignment? translateWord (opening.chars ++ rest) = some rest := by
  have hsign : isBlank '=' = false := by decide
  have hquote : isBlank '"' = false := by decide
  simp only [Opening.chars_append, afterAssignment?, after?_append, Gap.skipBlanks_append hsign,
    Gap.skipBlanks_append hquote]

/-- What is read is an opening. -/
theorem afterAssignment?_eq_some_iff :
    afterAssignment? translateWord text = some rest
      ↔ ∃ opening : Opening, text = opening.chars ++ rest := by
  constructor
  · intro h
    unfold afterAssignment? at h
    split at h
    · exact nomatch h
    · rename_i behind hbehind
      obtain ⟨gap, hgap⟩ := Gap.exists_append behind
      split at h
      · rename_i behind' hsign
        obtain ⟨gap', hgap'⟩ := Gap.exists_append behind'
        split at h
        · rename_i hquote
          refine ⟨⟨gap, gap'⟩, ?_⟩
          rw [Opening.chars_append, after?_eq_some_iff.mp hbehind, hgap, hsign, hgap', hquote,
            Option.some.inj h]
        · exact nomatch h
      · exact nomatch h
  · rintro ⟨opening, rfl⟩
    exact afterAssignment?_opening opening rest

/-! ## Filters -/

/-- A bar and the word of the filter, with a gap between them. -/
def filterChars (gap : Gap) : List Char :=
  '|' :: (gap.chars ++ translateWord)

/-- A bar and the word behind it are read where they are written. -/
theorem afterFilter?_filterChars (gap : Gap) (rest : List Char) :
    afterFilter? (filterChars gap ++ rest) = some rest := by
  have hword : translateWord = 't' :: ['r', 'a', 'n', 's', 'l', 'a', 't', 'e'] := rfl
  rw [filterChars, List.cons_append, List.append_assoc, hword, List.cons_append, afterFilter?,
    Gap.skipBlanks_append (by decide)]
  exact after?_append translateWord rest

/-- What is read is a bar and the word behind it. -/
theorem afterFilter?_eq_some_iff :
    afterFilter? text = some rest ↔ ∃ gap : Gap, text = filterChars gap ++ rest := by
  constructor
  · intro h
    unfold afterFilter? at h
    split at h
    · rename_i behind
      obtain ⟨gap, hgap⟩ := Gap.exists_append behind
      refine ⟨gap, ?_⟩
      rw [filterChars, List.cons_append, List.append_assoc, ← after?_eq_some_iff.mp h, ← hgap]
    · exact nomatch h
  · rintro ⟨gap, rfl⟩
    exact afterFilter?_filterChars gap rest

/-! ## Keys -/

/-- A key in quotes goes on until the quote comes again or white space comes before. -/
def isKeyChar (quote c : Char) : Bool :=
  c != quote && !isBlank c

/-- A key in quotes: it is not empty, and it holds neither the quote nor white space. -/
structure IsKey (quote : Char) (key : List Char) : Prop where
  ne_nil : key ≠ []
  isKeyChar : ∀ c ∈ key, isKeyChar quote c = true

/-- A key in quotes is read as far as the closing one. -/
theorem IsKey.takeWhile_append {quote : Char} (h : IsKey quote key) (rest : List Char) :
    (key ++ quote :: rest).takeWhile (fun c => c != quote && !isBlank c) = key :=
  takeWhile_append_cons h.isKeyChar (by simp [Template.isKeyChar]) rest

/-- What is read is a key, if there is something at all before the closing quote. -/
theorem isKey_of_takeWhile {quote : Char} (hkey : text.takeWhile (isKeyChar quote) = key)
    (hne : key ≠ []) (hquote : text.drop key.length = quote :: rest) :
    IsKey quote key ∧ text = key ++ quote :: rest := by
  refine ⟨⟨hne, fun c hc => ?_⟩, ?_⟩
  · rw [← hkey] at hc
    exact List.mem_takeWhile_imp hc
  · have hprefix : key <+: text := hkey ▸ List.takeWhile_prefix _
    rw [← hquote]
    exact (List.prefix_iff_eq_append.mp hprefix).symm

/-- A directive with a key is read where it is written, and nothing else is read. -/
theorem readDirective_eq_some_iff :
    readDirective text = some (key, rest)
      ↔ ∃ opening : Opening, IsKey '"' key ∧ text = opening.chars ++ (key ++ '"' :: rest) := by
  constructor
  · intro h
    unfold readDirective at h
    split at h
    · exact nomatch h
    · rename_i behind hbehind
      obtain ⟨opening, hopening⟩ := afterAssignment?_eq_some_iff.mp hbehind
      generalize hrun : behind.takeWhile (fun c => c != '"' && !isBlank c) = run at h
      dsimp only at h
      split at h
      · rename_i hquote
        obtain ⟨rfl, rfl⟩ := Prod.mk.inj (Option.some.inj h)
        obtain ⟨hkey, hwritten⟩ := isKey_of_takeWhile hrun (List.cons_ne_nil _ _) hquote
        exact ⟨opening, hkey, by rw [hopening, hwritten]⟩
      · exact nomatch h
  · rintro ⟨opening, hkey, rfl⟩
    have hrun := hkey.takeWhile_append rest
    obtain ⟨c, more, rfl⟩ := List.exists_cons_of_ne_nil hkey.ne_nil
    simp only [readDirective, afterAssignment?_opening, hrun, List.drop_left]

/-- A quoted key and a filter behind it, as they are written. -/
def quotedChars (key : List Char) (gap gap' : Gap) : List Char :=
  '\'' :: (key ++ '\'' :: (gap.chars ++ filterChars gap'))

/-- A quoted key that goes through a filter is found where it is written, and nothing else is
    found. -/
theorem scanFilter_eq_some_iff {before : Option Char} {hit : Hit (List Char)} :
    scanFilter before text = some hit
      ↔ ∃ (key : List Char) (gap gap' : Gap) (tail : List Char), IsKey '\'' key
        ∧ text = quotedChars key gap gap' ++ tail ∧ startsInWord tail = false
        ∧ hit = { value := key, more := (quotedChars key gap gap').length - 1, offset := 1 } := by
  constructor
  · intro h
    unfold scanFilter at h
    split at h
    · rename_i behind
      generalize hrun : behind.takeWhile (fun c => c != '\'' && !isBlank c) = run at h
      dsimp only at h
      split at h
      · rename_i closed hquote
        obtain ⟨hkey, hwritten⟩ := isKey_of_takeWhile hrun (List.cons_ne_nil _ _) hquote
        obtain ⟨gap, hgap⟩ := Gap.exists_append closed
        split at h
        · rename_i tail hfilter
          obtain ⟨gap', hgap'⟩ := afterFilter?_eq_some_iff.mp hfilter
          split at h
          · exact nomatch h
          · rename_i hword
            rw [hgap'] at hgap
            refine ⟨_, gap, gap', tail, hkey, ?_, Bool.eq_false_iff.mpr hword, ?_⟩
            · rw [hwritten, hgap, quotedChars]
              simp only [List.cons_append, List.append_assoc]
            · rw [← Option.some.inj h, distance, hwritten, hgap, quotedChars]
              simp only [List.length_append, List.length_cons, Hit.mk.injEq, true_and, and_true]
              omega
        · exact nomatch h
      · exact nomatch h
    · exact nomatch h
  · rintro ⟨key, gap, gap', tail, hkey, rfl, hword, rfl⟩
    have hgap : skipBlanks (gap.chars ++ (filterChars gap' ++ tail)) = filterChars gap' ++ tail :=
      gap.skipBlanks_append (by decide) _
    simp only [quotedChars, List.cons_append, List.append_assoc, scanFilter,
      hkey.takeWhile_append, List.drop_left]
    obtain ⟨c, more, rfl⟩ := List.exists_cons_of_ne_nil hkey.ne_nil
    simp only [hgap, afterFilter?_filterChars, hword, Bool.false_eq_true, if_false, distance,
      List.length_append, List.length_cons, Option.some.injEq, Hit.mk.injEq, true_and, and_true]
    omega

/-- A quoted key begins with a quote. -/
theorem beginsWith_scanFilter : BeginsWith scanFilter '\'' := by
  intro previous d rest hd
  rw [Option.eq_none_iff_forall_ne_some]
  intro hit hhit
  obtain ⟨key, gap, gap', tail, -, htext, -⟩ := scanFilter_eq_some_iff.mp hhit
  exact hd (List.cons.inj htext).1

/-- An operand begins with a brace. -/
theorem beginsWith_scanOperand : BeginsWith scanOperand '\x7b' := by
  intro previous d rest hd
  unfold scanOperand
  split
  · rename_i heq
    exact absurd (List.cons.inj heq).1 hd
  · rfl

/-! ## Directives whose value holds a filter -/

/-- The value of a directive goes on to its first bar unless one of these comes before. -/
def isInner (c : Char) : Bool :=
  c != '<' && c != '>' && c != '|' && c != '"'

/-- Behind the opening of a directive a filter is read, unless another character ends the search
    for its bar. -/
theorem readMixed_opening (opening : Opening) (rest : List Char) :
    readMixed (opening.chars ++ rest)
      = (afterFilter? (rest.drop (rest.takeWhile isInner).length)).map ((), ·) := by
  rw [readMixed, afterAssignment?_opening]
  rfl

/-- A directive is read as far as the first bar of its value if a filter begins there and no
    angle bracket comes before, and nothing else is read. -/
theorem readMixed_eq_some_iff :
    readMixed text = some ((), rest)
      ↔ ∃ (opening : Opening) (inner : List Char) (gap : Gap), (∀ c ∈ inner, isInner c = true)
        ∧ text = opening.chars ++ (inner ++ (filterChars gap ++ rest)) := by
  constructor
  · intro h
    unfold readMixed at h
    split at h
    · exact nomatch h
    · rename_i behind hbehind
      obtain ⟨opening, hopening⟩ := afterAssignment?_eq_some_iff.mp hbehind
      obtain ⟨tail, htail, hrest⟩ := Option.map_eq_some_iff.mp h
      obtain ⟨gap, hgap⟩ := afterFilter?_eq_some_iff.mp htail
      obtain rfl : tail = rest := congrArg Prod.snd hrest
      refine ⟨opening, behind.takeWhile isInner, gap, fun c hc => List.mem_takeWhile_imp hc, ?_⟩
      have hprefix : behind.takeWhile isInner <+: behind := List.takeWhile_prefix _
      rw [hopening, ← hgap]
      exact congrArg (opening.chars ++ ·) (List.prefix_iff_eq_append.mp hprefix).symm
  · rintro ⟨opening, inner, gap, hinner, rfl⟩
    have hrun : (inner ++ (filterChars gap ++ rest)).takeWhile isInner = inner :=
      takeWhile_append_cons hinner (by decide) _
    rw [readMixed_opening, hrun, List.drop_left, afterFilter?_filterChars]
    rfl

/-! ## Attributes -/

/-- An attribute may stand behind such a character. -/
def isBoundary (c : Char) : Bool :=
  isBlank c || c == '<'

/-- A text that begins with an opening. -/
def Opens (text : List Char) : Prop :=
  ∃ (opening : Opening) (rest : List Char), text = opening.chars ++ rest

/-- A reader of attributes that reads nothing but what an opening begins. -/
def ReadsOpenings (read : List Char → Option (α × List Char)) : Prop :=
  ∀ text found, read text = some found → Opens text

/-- Nothing is read where no opening begins. -/
theorem ReadsOpenings.eq_none {read : List Char → Option (α × List Char)}
    (h : ReadsOpenings read) (hopens : ¬ Opens text) : read text = none := by
  rw [Option.eq_none_iff_forall_ne_some]
  intro found hfound
  exact hopens (h text found hfound)

/-- A directive with a key begins with an opening. -/
theorem readsOpenings_readDirective : ReadsOpenings readDirective := by
  rintro text ⟨key, rest⟩ h
  obtain ⟨opening, -, htext⟩ := readDirective_eq_some_iff.mp h
  exact ⟨opening, _, htext⟩

/-- A directive whose value holds a filter begins with an opening. -/
theorem readsOpenings_readMixed : ReadsOpenings readMixed := by
  rintro text ⟨⟨⟩, rest⟩ h
  obtain ⟨opening, inner, gap, -, htext⟩ := readMixed_eq_some_iff.mp h
  exact ⟨opening, _, htext⟩

/-- No opening begins with a character that an attribute may stand behind. -/
theorem not_opens_cons {c : Char} (hc : isBoundary c = true) (text : List Char) :
    ¬ Opens (c :: text) := by
  rintro ⟨opening, rest, htext⟩
  rw [Opening.chars_append] at htext
  obtain rfl : c = 't' := (List.cons.inj htext).1
  exact absurd hc (by decide)

section Attributes

variable {read : List Char → Option (α × List Char)} {offset : List Char → Nat}
  {before : Option Char} {value : α}

/-- An attribute is found at the start of a text. -/
theorem scanAttribute_start (h : read text = some (value, rest)) :
    scanAttribute read offset none text
      = some { value, more := distance text rest - 1, offset := offset text } := by
  unfold scanAttribute
  simp only [Option.isNone_none, if_true, h, Option.map_some]

/-- An attribute is found behind white space and behind the start of a tag. -/
theorem scanAttribute_boundary {c : Char} (hread : ReadsOpenings read)
    (hc : isBoundary c = true) (h : read text = some (value, rest)) :
    scanAttribute read offset before (c :: text)
      = some { value, more := distance text rest, offset := offset text + 1 } := by
  have hstart : read (c :: text) = none := hread.eq_none (not_opens_cons hc text)
  have hc' : (isBlank c || c == '<') = true := hc
  unfold scanAttribute
  simp only [hstart, h, hc', Option.map_none, Option.map_some, ite_self, if_true]

/-- What is found is an attribute, at the start of the text or behind a character that it may
    stand behind. -/
theorem of_scanAttribute_eq_some {hit : Hit α}
    (h : scanAttribute read offset before text = some hit) :
    (before = none ∧ ∃ value rest, read text = some (value, rest)
        ∧ hit.more = distance text rest - 1)
      ∨ ∃ c behind value rest, text = c :: behind ∧ isBoundary c = true
        ∧ read behind = some (value, rest) ∧ hit.more = distance behind rest := by
  unfold scanAttribute at h
  dsimp only at h
  split at h
  · rename_i hstart
    split at hstart
    · rename_i hnone
      obtain ⟨⟨value, rest⟩, hread, heq⟩ := Option.map_eq_some_iff.mp hstart
      obtain rfl := Option.some.inj h
      exact Or.inl ⟨Option.isNone_iff_eq_none.mp hnone, value, rest, hread, by rw [← heq]⟩
    · exact nomatch hstart
  · rename_i c behind hstart
    split at h
    · rename_i hc
      obtain ⟨⟨value, rest⟩, hread, heq⟩ := Option.map_eq_some_iff.mp h
      exact Or.inr ⟨c, behind, value, rest, rfl, hc, hread, by rw [← heq]⟩
    · exact nomatch h
  · exact nomatch h

/-- Nothing is found where no attribute is read, neither here nor behind this character. -/
theorem scanAttribute_eq_none {c : Char}
    (hstart : before = none → read (c :: rest) = none)
    (hbehind : isBoundary c = true → read rest = none) :
    scanAttribute read offset before (c :: rest) = none := by
  rw [Option.eq_none_iff_forall_ne_some]
  intro hit hhit
  rcases of_scanAttribute_eq_some hhit with
    ⟨hnone, value, tail, hread, -⟩ | ⟨d, behind, value, tail, heq, hboundary, hread, -⟩
  · rw [hstart hnone] at hread
    exact nomatch hread
  · obtain ⟨rfl, rfl⟩ := List.cons.inj heq
    rw [hbehind hboundary] at hread
    exact nomatch hread

/-- A stretch of text is passed over if no opening begins in it or at its end. -/
theorem matchesFrom_scanAttribute_of_opens {stretch : List Char} (hread : ReadsOpenings read)
    (h : ∀ back, back <:+ stretch → ¬ Opens (back ++ rest)) (before : List Char) :
    matchesFrom (scanAttribute read offset) before 0 (stretch ++ rest)
      = matchesFrom (scanAttribute read offset) (before ++ stretch) 0 rest := by
  have hnone : ∀ back, back <:+ stretch → read (back ++ rest) = none :=
    fun back hback => hread.eq_none (h back hback)
  refine matchesFrom_stretch ?_
  rintro front c back rfl
  refine scanAttribute_eq_none (fun _ => ?_) (fun _ => ?_)
  · exact hnone (c :: back) (List.suffix_append front _)
  · exact hnone back ⟨front ++ [c], by rw [List.append_assoc, List.singleton_append]⟩

/-- A stretch of text inside a template is passed over if no attribute may stand behind one of
    its characters. -/
theorem matchesFrom_scanAttribute_of_boundary {before stretch : List Char} (hbefore : before ≠ [])
    (h : ∀ c ∈ stretch, isBoundary c = false) :
    matchesFrom (scanAttribute read offset) before 0 (stretch ++ rest)
      = matchesFrom (scanAttribute read offset) (before ++ stretch) 0 rest := by
  refine matchesFrom_stretch ?_
  rintro front c back rfl
  refine scanAttribute_eq_none (fun hprevious => ?_) (fun hboundary => ?_)
  · have hnil := List.getLast?_eq_none_iff.mp hprevious
    exact absurd (List.append_eq_nil_iff.mp hnil).1 hbefore
  · rw [h c (List.mem_append_right front List.mem_cons_self)] at hboundary
    exact nomatch hboundary

end Attributes

end CatalogLint.Template
