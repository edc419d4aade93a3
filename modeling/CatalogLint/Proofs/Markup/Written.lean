import CatalogLint.Markup
import CatalogLint.Proofs.Text.Marks
import CatalogLint.Proofs.Text.Sweep

/-! # Written markup

    A value is written token by token: stretches of plain text, and tags.  Plain text holds no
    angle bracket, and neither does what stands between the brackets of a tag, so whatever is
    looked for from left to right is looked for at the tags alone:

    * the scanners of tags tell from a tag what it is, whatever follows it (`readsTags_scanOpening`,
      `readsTags_scanClosing`), and a sweep finds what its scanner finds at the tags, in
      their order (`ReadsTags.map_value_sweep_written`);
    * the first opening tag of a value is the first token that is one
      (`firstOpening_written_append`);
    * the closing tag of a name is found where a token closes the name, and nowhere else
      (`splitOnce_closingTag_written`). -/

namespace CatalogLint.Markup

open Unicode Text

/-! ## Tokens -/

/-- A text without angle brackets. -/
structure PlainText where
  chars : List Char
  opener_notMem : '<' ∉ chars
  closer_notMem : '>' ∉ chars

/-- The name of a closing tag. -/
structure ClosingName extends PlainText where
  ne_nil : chars ≠ []

/-- The name of an opening tag. -/
structure TagName extends ClosingName where
  slash_notMem : '/' ∉ chars
  blank_notMem : ∀ c ∈ chars, isBlank c = false

/-- What stands behind the name of a tag: nothing, or a text that starts with white space. -/
structure Attributes extends PlainText where
  blank_head : ∀ c ∈ chars.head?, isBlank c = true

/-- A tag.  What stands behind the name of an opening tag does not end with a slash. -/
inductive Tag where
  | opening (name : TagName) (attributes : Attributes)
      (slash_not_last : attributes.chars.getLast? ≠ some '/')
  | selfClosing (name : TagName) (attributes : Attributes)
  | closing (name : ClosingName)

namespace Tag

/-- What is written between the angle brackets of a tag. -/
def inner : Tag → List Char
  | opening name attributes _ => name.chars ++ attributes.chars
  | selfClosing name attributes => name.chars ++ (attributes.chars ++ ['/'])
  | closing name => '/' :: name.chars

/-- A tag as it is written. -/
def chars (tag : Tag) : List Char :=
  '<' :: (tag.inner ++ ['>'])

/-- The name of an opening tag. -/
def openingName? : Tag → Option (List Char)
  | opening name _ _ => some name.chars
  | _ => none

/-- The name of a closing tag. -/
def closingName? : Tag → Option (List Char)
  | closing name => some name.chars
  | _ => none

/-- The tag closes itself. -/
def isSelfClosing : Tag → Bool
  | selfClosing _ _ => true
  | _ => false

/-- What a tag is for a scanner of opening tags: a tag with a slash right behind its name is
    none, and one with a slash behind something else closes itself. -/
def opening? : Tag → Option Opening
  | opening name _ _ => some ⟨name.chars, false⟩
  | selfClosing name attributes =>
      if attributes.chars = [] then none else some ⟨name.chars, true⟩
  | closing _ => none

end Tag

/-- A piece of a value: plain text, or a tag. -/
inductive Token where
  | text (plain : PlainText)
  | tag (tag : Tag)

namespace Token

/-- A token as it is written. -/
def chars : Token → List Char
  | .text plain => plain.chars
  | .tag written => written.chars

/-- The tag, if the token is one. -/
def tag? : Token → Option Tag
  | .text _ => none
  | .tag written => some written

/-- The token is a tag that closes itself. -/
def isSelfClosing (token : Token) : Bool :=
  token.tag?.any Tag.isSelfClosing

end Token

/-- A value as it is written. -/
def written (tokens : List Token) : List Char :=
  tokens.flatMap Token.chars

/-- The tags of a value, in order. -/
def tagsOf (tokens : List Token) : List Tag :=
  tokens.filterMap Token.tag?

variable {α : Type} {scan : Scanner α} {found? : Tag → Option α}
variable {tokens before after : List Token} {stretch rest : List Char}

/-- Values are written one after the other. -/
theorem written_append (before after : List Token) :
    written (before ++ after) = written before ++ written after :=
  List.flatMap_append

/-- A value is written from its first token on. -/
theorem written_cons (token : Token) (rest : List Token) :
    written (token :: rest) = token.chars ++ written rest :=
  List.flatMap_cons

/-- The tags of two values are those of the values. -/
theorem tagsOf_append (before after : List Token) :
    tagsOf (before ++ after) = tagsOf before ++ tagsOf after :=
  List.filterMap_append

/-- Between the brackets of a tag there is no opening bracket. -/
theorem Tag.opener_notMem_inner (tag : Tag) : '<' ∉ tag.inner := by
  cases tag with
  | opening name attributes hlast =>
      exact List.not_mem_append name.opener_notMem attributes.opener_notMem
  | selfClosing name attributes =>
      exact List.not_mem_append name.opener_notMem
        (List.not_mem_append attributes.opener_notMem (by decide))
  | closing name => exact List.not_mem_cons_of_ne_of_not_mem (by decide) name.opener_notMem

/-- Between the brackets of a tag there is no closing bracket. -/
theorem Tag.closer_notMem_inner (tag : Tag) : '>' ∉ tag.inner := by
  cases tag with
  | opening name attributes hlast =>
      exact List.not_mem_append name.closer_notMem attributes.closer_notMem
  | selfClosing name attributes =>
      exact List.not_mem_append name.closer_notMem
        (List.not_mem_append attributes.closer_notMem (by decide))
  | closing name => exact List.not_mem_cons_of_ne_of_not_mem (by decide) name.closer_notMem

/-- Behind the bracket that opens a tag there is no other one in it. -/
theorem Tag.opener_notMem_tail (tag : Tag) : '<' ∉ tag.inner ++ ['>'] :=
  List.not_mem_append tag.opener_notMem_inner (by decide)

/-! ## Scanners -/

/-- A scanner reads tags: it finds nothing off an opening bracket, and at a tag it finds what
    the tag tells, up to the end of the tag. -/
structure ReadsTags (scan : Scanner α) (found? : Tag → Option α) : Prop where
  off_bracket : ∀ before c rest, c ≠ '<' → scan before (c :: rest) = none
  at_tag : ∀ before tag rest, scan before (Tag.chars tag ++ rest)
    = (found? tag).map fun value => { value, more := tag.inner.length + 1 }

/-- The characters of a name are read as such. -/
theorem TagName.takeWhile_append (name : TagName) {c : Char} (hc : isNameChar c = false)
    (rest : List Char) : (name.chars ++ c :: rest).takeWhile isNameChar = name.chars := by
  have hname : ∀ d ∈ name.chars, isNameChar d = true := by
    intro d hd
    have hslash : d ≠ '/' := fun h => name.slash_notMem (h ▸ hd)
    have hcloser : d ≠ '>' := fun h => name.closer_notMem (h ▸ hd)
    rw [isNameChar, name.blank_notMem d hd, bne_iff_ne.mpr hslash, bne_iff_ne.mpr hcloser]
    rfl
  rw [List.takeWhile_append_of_pos hname, List.takeWhile_cons, hc]
  exact List.append_nil name.chars

/-- A name does not start with a slash. -/
theorem TagName.append_ne_slash (name : TagName) (more rest : List Char) :
    name.chars ++ more ≠ '/' :: rest := by
  obtain ⟨c, chars, hchars⟩ := List.exists_cons_of_ne_nil name.ne_nil
  rw [hchars, List.cons_append]
  intro h
  have hmem : c ∈ name.chars := hchars ▸ List.mem_cons_self
  rw [(List.cons.inj h).1] at hmem
  exact name.slash_notMem hmem

/-- A name with a bracket behind it, or with white space and a bracket behind that, is an
    opening tag.  It closes itself if there is a slash before the bracket. -/
theorem scanOpening_name (name : TagName) {inside : List Char} (hcloser : '>' ∉ inside)
    (hblank : ∀ c ∈ inside.head?, isBlank c = true) (before : Option Char) (rest : List Char) :
    scanOpening before ('<' :: (name.chars ++ (inside ++ '>' :: rest)))
      = some
        { value := ⟨name.chars, inside.getLast? == some '/'⟩
          more := (name.chars ++ inside).length + 1 } := by
  rw [scanOpening]
  cases inside with
  | nil =>
      rw [List.nil_append, name.takeWhile_append (by decide)]
      simp only [List.drop_left, List.isEmpty_eq_false_iff.mpr name.ne_nil, Bool.false_eq_true,
        if_false, List.append_nil]
      rfl
  | cons c inside =>
      have hc : isBlank c = true := hblank c rfl
      have hne : c ≠ '>' := fun h => hcloser (h ▸ List.mem_cons_self)
      have hname : isNameChar c = false := by
        rw [isNameChar, hc, Bool.not_true, Bool.and_false]
      have hinside : '>' ∉ inside := fun h => hcloser (List.mem_cons_of_mem c h)
      rw [List.cons_append, name.takeWhile_append hname]
      simp only [List.drop_left, List.isEmpty_eq_false_iff.mpr name.ne_nil, Bool.false_eq_true,
        if_false, hc, if_true, takeWhile_append_stop hinside, List.length_append,
        List.length_cons]
      rfl

/-- What starts with a slash behind its bracket, or has one right behind its name, is no
    opening tag. -/
theorem scanOpening_slash (name : List Char) (hname : name = [] ∨ ∃ tag : TagName, name = tag.chars)
    (before : Option Char) (rest : List Char) :
    scanOpening before ('<' :: (name ++ '/' :: rest)) = none := by
  rw [scanOpening]
  rcases hname with rfl | ⟨tag, rfl⟩
  · rfl
  · rw [tag.takeWhile_append (by decide)]
    simp only [List.drop_left, List.isEmpty_eq_false_iff.mpr tag.ne_nil, Bool.false_eq_true,
      if_false]
    rfl

/-- **A tag is an opening tag to the scanner of opening tags if it is one.** -/
theorem readsTags_scanOpening : ReadsTags scanOpening Tag.opening? where
  off_bracket before c rest hc := scanOpening.eq_2 before (c :: rest) (fun tail h =>
    hc (List.cons.inj h).1)
  at_tag before tag rest := by
    rw [Tag.chars, List.cons_append, List.append_assoc, List.singleton_append]
    cases tag with
    | opening name attributes hlast =>
        rw [Tag.inner, List.append_assoc,
          scanOpening_name name attributes.closer_notMem attributes.blank_head,
          beq_eq_false_iff_ne.mpr hlast]
        rfl
    | selfClosing name attributes =>
        rw [Tag.inner, Tag.opening?]
        split
        · rename_i hnil
          rw [hnil, List.nil_append, List.append_assoc]
          exact scanOpening_slash name.chars (Or.inr ⟨name, rfl⟩) before _
        · rename_i hne
          have hcloser : '>' ∉ attributes.chars ++ ['/'] :=
            List.not_mem_append attributes.closer_notMem (by decide)
          have hblank : ∀ c ∈ (attributes.chars ++ ['/']).head?, isBlank c = true := by
            intro c hc
            rw [List.head?_append, List.head?_eq_some_head hne, Option.some_or] at hc
            refine attributes.blank_head c ?_
            rw [List.head?_eq_some_head hne]
            exact hc
          rw [List.append_assoc name.chars, scanOpening_name name hcloser hblank,
            List.getLast?_concat, beq_self_eq_true]
          rfl
    | closing name => exact scanOpening_slash [] (Or.inl rfl) before _

/-- **A tag is a closing tag to the scanner of closing tags if it is one.** -/
theorem readsTags_scanClosing : ReadsTags scanClosing Tag.closingName? where
  off_bracket before c rest hc := scanClosing.eq_2 before (c :: rest) (fun tail h =>
    hc (List.cons.inj h).1)
  at_tag before tag rest := by
    have hopening : ∀ (name : TagName) (tail : List Char),
        scanClosing before ('<' :: (name.chars ++ tail)) = none := by
      intro name tail
      exact scanClosing.eq_2 before _ (fun more h =>
        name.append_ne_slash tail more (List.cons.inj h).2)
    rw [Tag.chars, List.cons_append, List.append_assoc, List.singleton_append]
    cases tag with
    | opening name attributes hlast =>
        rw [Tag.inner, List.append_assoc]
        exact hopening name _
    | selfClosing name attributes =>
        rw [Tag.inner, List.append_assoc]
        exact hopening name _
    | closing name =>
        rw [Tag.inner, List.cons_append, scanClosing, takeWhile_append_stop name.closer_notMem]
        simp only [List.drop_left, List.isEmpty_eq_false_iff.mpr name.ne_nil, Bool.false_eq_true,
          if_false]
        rfl

/-! ## Sweeps -/

namespace ReadsTags

/-- A sweep for tags goes over plain text without a match. -/
theorem sweepFrom_plain (h : ReadsTags scan found?) (hplain : '<' ∉ stretch)
    (before : Option Char) (line : Nat) (rest : List Char) :
    ∃ before' line', sweepFrom scan before 0 line (stretch ++ rest)
      = sweepFrom scan before' 0 line' rest := by
  induction stretch generalizing before line with
  | nil => exact ⟨before, line, rfl⟩
  | cons c stretch ih =>
      have hc : c ≠ '<' := fun heq => hplain (heq ▸ List.mem_cons_self)
      rw [List.cons_append, sweepFrom, h.off_bracket before c (stretch ++ rest) hc]
      exact ih (fun hmem => hplain (List.mem_cons_of_mem c hmem)) (some c) _

/-- A sweep for tags finds at a tag what the tag tells, and goes on behind the tag. -/
theorem map_value_sweepFrom_tag (h : ReadsTags scan found?) (before : Option Char) (line : Nat)
    (tag : Tag) (rest : List Char) :
    ∃ before' line', (sweepFrom scan before 0 line (tag.chars ++ rest)).map Located.value
      = (found? tag).toList ++ (sweepFrom scan before' 0 line' rest).map Located.value := by
  have hscan := h.at_tag before tag rest
  rw [Tag.chars, List.cons_append] at hscan ⊢
  rw [sweepFrom, hscan]
  cases found? tag with
  | none =>
      obtain ⟨before', line', hrest⟩ := h.sweepFrom_plain tag.opener_notMem_tail (some '<')
        (line + lineFeeds ['<']) rest
      exact ⟨before', line', congrArg (List.map Located.value) hrest⟩
  | some value =>
      obtain ⟨before', line', hrest⟩ := sweepFrom_pass scan (some '<') (line + lineFeeds ['<'])
        (tag.inner ++ ['>']) rest
      rw [List.length_append] at hrest
      exact ⟨before', line', congrArg (value :: List.map Located.value ·) hrest⟩

/-- What a sweep for tags finds in a written value, wherever it starts. -/
theorem map_value_sweepFrom_written (h : ReadsTags scan found?) (before : Option Char)
    (line : Nat) (tokens : List Token) :
    (sweepFrom scan before 0 line (written tokens)).map Located.value
      = (tagsOf tokens).filterMap found? := by
  induction tokens generalizing before line with
  | nil => rfl
  | cons token rest ih =>
      rw [written_cons]
      cases token with
      | text plain =>
          obtain ⟨before', line', hrest⟩ :=
            h.sweepFrom_plain plain.opener_notMem before line (written rest)
          exact (congrArg (List.map Located.value) hrest).trans (ih before' line')
      | tag tag =>
          obtain ⟨before', line', hrest⟩ :=
            h.map_value_sweepFrom_tag before line tag (written rest)
          refine hrest.trans ?_
          rw [ih]
          show _ = (tag :: tagsOf rest).filterMap found?
          rw [List.filterMap_cons]
          cases found? tag with
          | none => rfl
          | some value => rfl

/-- **A sweep for tags finds the tags that were written**, in their order. -/
theorem map_value_sweep_written (h : ReadsTags scan found?) (tokens : List Token) :
    (sweep scan (written tokens)).map Located.value = (tagsOf tokens).filterMap found? :=
  h.map_value_sweepFrom_written none 1 tokens

end ReadsTags

/-! ## The first opening tag -/

/-- What is found, with a stretch of text before it. -/
def behind (stretch : List Char) (found : List Char × List Char × List Char) :
    List Char × List Char × List Char :=
  (stretch ++ found.1, found.2)

/-- Two stretches before what is found are one stretch. -/
theorem map_behind_append (first second : List Char)
    (found? : Option (List Char × List Char × List Char)) :
    (found?.map (behind second)).map (behind first) = found?.map (behind (first ++ second)) := by
  cases found? with
  | none => rfl
  | some found =>
      exact congrArg (fun before => some (before, found.2))
        (List.append_assoc first second found.1).symm

/-- No stretch before what is found leaves it as it is. -/
theorem map_behind_nil (found? : Option (List Char × List Char × List Char)) :
    found?.map (behind []) = found? := by
  cases found? with
  | none => rfl
  | some found => rfl

/-- Characters that are passed over stand before what is found. -/
theorem firstOpening_pass (stretch rest : List Char) :
    firstOpening stretch.length (stretch ++ rest)
      = (firstOpening 0 rest).map (behind stretch) := by
  induction stretch with
  | nil => exact (map_behind_nil _).symm
  | cons c stretch ih =>
      show (firstOpening stretch.length (stretch ++ rest)).map (behind [c]) = _
      rw [ih, map_behind_append, List.singleton_append]

/-- Where the scanner finds nothing, one character stands before what is found. -/
theorem firstOpening_of_eq_none {c : Char} (h : scanOpening none (c :: rest) = none) :
    firstOpening 0 (c :: rest) = (firstOpening 0 rest).map (behind [c]) := by
  rw [firstOpening, h]
  rfl

/-- Plain text stands before what is found. -/
theorem firstOpening_plain (hplain : '<' ∉ stretch) (rest : List Char) :
    firstOpening 0 (stretch ++ rest) = (firstOpening 0 rest).map (behind stretch) := by
  induction stretch with
  | nil => exact (map_behind_nil _).symm
  | cons c stretch ih =>
      have hc : c ≠ '<' := fun heq => hplain (heq ▸ List.mem_cons_self)
      rw [List.cons_append,
        firstOpening_of_eq_none (readsTags_scanOpening.off_bracket none c _ hc),
        ih (fun hmem => hplain (List.mem_cons_of_mem c hmem)), map_behind_append,
        List.singleton_append]

/-- An opening tag is found where it stands. -/
theorem firstOpening_opening (name : TagName) (attributes : Attributes)
    (hlast : attributes.chars.getLast? ≠ some '/') (rest : List Char) :
    firstOpening 0 ((Tag.opening name attributes hlast).chars ++ rest)
      = some ([], name.chars, rest) := by
  have hscan := readsTags_scanOpening.at_tag none (.opening name attributes hlast) rest
  rw [Tag.chars, List.cons_append] at hscan ⊢
  rw [firstOpening, hscan]
  refine congrArg (fun after => some ([], name.chars, after)) ?_
  exact List.drop_left' List.length_append

/-- A tag that is no opening one stands before what is found. -/
theorem firstOpening_tag {tag : Tag} (h : tag.openingName? = none) (rest : List Char) :
    firstOpening 0 (tag.chars ++ rest) = (firstOpening 0 rest).map (behind tag.chars) := by
  have hscan := readsTags_scanOpening.at_tag none tag rest
  rw [Tag.chars, List.cons_append] at hscan ⊢
  cases hfound : tag.opening? with
  | none =>
      rw [hfound] at hscan
      rw [firstOpening_of_eq_none hscan, firstOpening_plain tag.opener_notMem_tail,
        map_behind_append, List.singleton_append]
  | some opening =>
      -- the tag closes itself, and the search goes on behind it
      have hself : opening.selfClosing = true := by
        cases tag with
        | opening name attributes hlast => exact nomatch h
        | selfClosing name attributes =>
            rw [Tag.opening?] at hfound
            split at hfound
            · exact nomatch hfound
            · exact Option.some.inj hfound ▸ rfl
        | closing name => exact nomatch hfound
      have hpass := firstOpening_pass (tag.inner ++ ['>']) rest
      rw [List.length_append] at hpass
      rw [firstOpening, hscan, hfound]
      show (if opening.selfClosing = true then
        (firstOpening (tag.inner.length + 1) (tag.inner ++ ['>'] ++ rest)).map (behind ['<'])
          else _) = _
      rw [if_pos hself]
      exact (congrArg (Option.map (behind ['<'])) hpass).trans (map_behind_append ['<'] _ _)

/-- **What stands before the first opening tag is passed over.** -/
theorem firstOpening_written_append (h : ∀ tag ∈ tagsOf tokens, tag.openingName? = none)
    (rest : List Char) :
    firstOpening 0 (written tokens ++ rest)
      = (firstOpening 0 rest).map (behind (written tokens)) := by
  induction tokens with
  | nil => exact (map_behind_nil _).symm
  | cons token tokens ih =>
      have hrest : ∀ tag ∈ tagsOf tokens, tag.openingName? = none := by
        intro tag htag
        refine h tag ?_
        rw [← List.singleton_append, tagsOf_append]
        exact List.mem_append_right _ htag
      have htoken : ∀ tail, firstOpening 0 (token.chars ++ tail)
          = (firstOpening 0 tail).map (behind token.chars) := by
        cases token with
        | text plain => exact firstOpening_plain plain.opener_notMem
        | tag tag => exact firstOpening_tag (h tag List.mem_cons_self)
      rw [written_cons, List.append_assoc, htoken, ih hrest, map_behind_append]

/-! ## The closing tag of a name -/

/-- The closing tag of a name is a tag. -/
theorem closingTag_eq_chars (name : ClosingName) :
    closingTag name.chars = (Tag.closing name).chars :=
  rfl

/-- The mark of a closing tag cannot overlap itself. -/
theorem unbordered_closingTag (name : ClosingName) : Unbordered (closingTag name.chars) :=
  unbordered_cons (Tag.opener_notMem_tail (.closing name))

/-- Only the closing tag of a name begins as it does. -/
theorem closingName?_of_closingTag {name : ClosingName} {tag : Tag}
    (h : closingTag name.chars <+: tag.chars ++ rest) : tag.closingName? = some name.chars := by
  obtain ⟨tail, htail⟩ := h
  have hinner : '/' :: name.chars ++ '>' :: tail = tag.inner ++ '>' :: rest := by
    rw [closingTag_eq_chars, Tag.chars, Tag.chars] at htail
    simpa [Tag.inner] using htail
  have hclosing : '>' ∉ '/' :: name.chars := Tag.closer_notMem_inner (.closing name)
  have heq : tag.inner = '/' :: name.chars := by
    rw [← takeWhile_append_stop tag.closer_notMem_inner rest, ← hinner,
      takeWhile_append_stop hclosing]
  cases tag with
  | opening other attributes hlast => exact absurd heq (other.append_ne_slash _ _)
  | selfClosing other attributes => exact absurd heq (other.append_ne_slash _ _)
  | closing other => exact congrArg some (List.cons.inj heq).2

/-- In a value without the closing tag of a name the mark of that tag does not occur. -/
theorem closingTag_notInfix_written {name : ClosingName}
    (h : ∀ tag ∈ tagsOf tokens, tag.closingName? ≠ some name.chars) :
    ¬ closingTag name.chars <:+: written tokens := by
  induction tokens with
  | nil => exact fun hinfix => nomatch List.infix_nil.mp hinfix
  | cons token tokens ih =>
      rw [written_cons]
      cases token with
      | text plain =>
          rw [Token.chars, closingTag_eq_chars, Tag.chars, infix_append_iff plain.opener_notMem]
          exact ih h
      | tag tag =>
          intro hinfix
          rw [Token.chars, Tag.chars, List.cons_append] at hinfix
          rcases List.infix_cons_iff.mp hinfix with hprefix | hinside
          · exact h tag List.mem_cons_self (closingName?_of_closingTag hprefix)
          · rw [closingTag_eq_chars, Tag.chars, infix_append_iff tag.opener_notMem_tail] at hinside
            exact ih (fun other hother => h other (List.mem_cons_of_mem tag hother)) hinside

/-- **The first closing tag of a name is found where it was written.** -/
theorem splitOnce_closingTag_written (name : ClosingName)
    (h : ∀ tag ∈ tagsOf before, tag.closingName? ≠ some name.chars) (after : List Token) :
    splitOnce (closingTag name.chars) (written (before ++ .tag (.closing name) :: after))
      = some (written before, written after) := by
  rw [written_append, written_cons]
  exact (unbordered_closingTag name).splitOnce_append (closingTag_notInfix_written h) _

/-- Nothing is found in a value without the closing tag of the name. -/
theorem splitOnce_closingTag_eq_none (name : ClosingName)
    (h : ∀ tag ∈ tagsOf tokens, tag.closingName? ≠ some name.chars) :
    splitOnce (closingTag name.chars) (written tokens) = none :=
  (splitOnce_eq_none_iff (unbordered_closingTag name).ne_nil).mpr (closingTag_notInfix_written h)

end CatalogLint.Markup
