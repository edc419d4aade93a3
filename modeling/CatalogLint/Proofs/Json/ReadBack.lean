import CatalogLint.Json.Reader
import CatalogLint.Json.Writer
import Mathlib.Data.List.Basic
import Mathlib.Tactic.SplitIfs

/-! # Written values read back

    What the writer makes of a value, the reader takes apart again.

    * a string comes back whatever characters it is made of (`readChars_writeString`):
      each of them is written as a piece of its own, and the pieces join to the string;
    * a natural number comes back if what follows does not go on with it
      (`readNumber_natural`);
    * a value without other numbers comes back with everything that is nested in it
      (`read?_pretty`).  The induction is on the value together with the lists of items
      and of members, as the writer goes through them, for a text that goes on and for any
      fuel that covers the text. -/

namespace CatalogLint.Json

open Text

variable {text rest after : List Char}

/-! ## Strings -/

/-- The piece that a character is read back as: its number if it is a control character
    without a letter of its own, and else the character. -/
def partOf (c : Char) : StringPart :=
  if c.toNat < 0x20 ∧ c ∉ ['\n', '\r', '\t', '\x08', '\x0c'] then .unit c.toNat else .char c

/-- A hexadecimal digit has the value that it was written for. -/
theorem hexValue?_hexDigit : ∀ value < 16, hexValue? (hexDigit value) = some value := by
  decide

/-- The digits of a control character write its number. -/
theorem hexUnit?_hexDigit {value : Nat} (h : value < 0x20) :
    hexUnit? '0' '0' (hexDigit (value / 16)) (hexDigit (value % 16)) = some value := by
  have hzero : hexValue? '0' = some 0 := rfl
  have hhigh := hexValue?_hexDigit (value / 16) (by omega)
  have hlow := hexValue?_hexDigit (value % 16) (Nat.mod_lt value (by decide))
  simp only [hexUnit?, hzero, hhigh, hlow, Option.bind_eq_bind, Option.bind_some, Option.pure_def]
  congr 1
  omega

/-- A letter after a backslash is a piece of its own. -/
theorem readParts_letter {letter c : Char} (h : shortEscape? letter = some c) :
    readParts ('\\' :: letter :: text)
      = (readParts text).map fun (parts, rest) => (.char c :: parts, rest) := by
  have hletter : letter ≠ 'u' := by
    rintro rfl
    exact nomatch h
  rw [readParts, h]
  intro _ _ _ _ _ hu
  exact absurd hu hletter

/-- A character that needs no backslash is a piece of its own. -/
theorem readParts_char {c : Char} (hquote : c ≠ '"') (hslash : c ≠ '\\')
    (hcontrol : ¬ c.toNat < 0x20) :
    readParts (c :: text)
      = (readParts text).map fun (parts, rest) => (.char c :: parts, rest) := by
  rw [readParts, if_neg (by simp [hcontrol, hslash])]
  · exact hquote
  · intro _ _ _ _ _ h
    exact absurd h hslash
  · intro _ _ h
    exact absurd h hslash

/-- A written character is read as one piece. -/
theorem readParts_escapeChar (c : Char) (text : List Char) :
    readParts (escapeChar c ++ text)
      = (readParts text).map fun (parts, rest) => (partOf c :: parts, rest) := by
  rw [escapeChar]
  split_ifs with hquote hslash hfeed hreturn htab hback hform hcontrol
  · subst hquote
    exact readParts_letter rfl
  · subst hslash
    exact readParts_letter rfl
  · subst hfeed
    exact readParts_letter rfl
  · subst hreturn
    exact readParts_letter rfl
  · subst htab
    exact readParts_letter rfl
  · subst hback
    exact readParts_letter rfl
  · subst hform
    exact readParts_letter rfl
  · -- the only characters that are written by their number
    have hpart : partOf c = .unit c.toNat :=
      if_pos ⟨hcontrol, by simp [hfeed, hreturn, htab, hback, hform]⟩
    rw [hpart]
    simp only [List.cons_append, List.nil_append, readParts, hexUnit?_hexDigit hcontrol]
  · have hpart : partOf c = .char c := if_neg fun h => hcontrol h.1
    rw [hpart]
    exact readParts_char hquote hslash hcontrol

/-- The characters of a string are read as their pieces, up to the closing quote. -/
theorem readParts_flatMap_escapeChar (chars rest : List Char) :
    readParts (chars.flatMap escapeChar ++ '"' :: rest) = some (chars.map partOf, rest) := by
  induction chars with
  | nil => rfl
  | cons c chars ih =>
      rw [List.flatMap_cons, List.append_assoc, readParts_escapeChar, ih]
      rfl

/-- The number of a control character is no half of a pair. -/
theorem joinParts_unit {value : Nat} (h : value < 0x20) (parts : List StringPart) :
    joinParts (.unit value :: parts) = (joinParts parts).map (Char.ofNat value :: ·) := by
  have hhigh : isHighHalf value = false := by
    simp [isHighHalf]
    omega
  have hlow : isLowHalf value = false := by
    simp [isLowHalf]
    omega
  rw [joinParts.eq_def]
  split <;> simp_all

/-- The pieces of characters join to the characters. -/
theorem joinParts_map_partOf (chars : List Char) : joinParts (chars.map partOf) = some chars := by
  induction chars with
  | nil => rfl
  | cons c chars ih =>
      rw [List.map_cons, partOf]
      split_ifs with h
      · rw [joinParts_unit h.1, ih, Option.map_some, Char.ofNat_toNat]
      · rw [joinParts, ih, Option.map_some]

/-- **A written string reads back**, whatever its characters are. -/
theorem readChars_writeString (text : String) (rest : List Char) :
    readChars (text.toList.flatMap escapeChar ++ '"' :: rest) = some (some text.toList, rest) := by
  simp only [readChars, readParts_flatMap_escapeChar, Option.map_some, joinParts_map_partOf]

/-! ## Natural numbers -/

/-- What may come after a value: nothing, a comma or a new line. -/
def Follows (rest : List Char) : Prop :=
  ∀ c ∈ rest.head?, c = ',' ∨ c = '\n'

/-- Nothing may come after a value. -/
theorem follows_nil : Follows [] :=
  fun _ h => nomatch h

/-- A comma may come after a value. -/
theorem follows_comma : Follows (',' :: rest) := by
  rintro c ⟨⟩
  exact Or.inl rfl

/-- A new line may come after a value. -/
theorem follows_newLine (depth : Nat) : Follows (newLine depth ++ rest) := by
  rintro c ⟨⟩
  exact Or.inr rfl

/-- A number is written with a digit first. -/
theorem exists_cons_toDigits (value : Nat) :
    ∃ digit digits, Nat.toDigits 10 value = digit :: digits ∧ digit.isDigit = true := by
  obtain ⟨digit, digits, hcons⟩ := List.exists_cons_of_ne_nil (Nat.toDigits_ne_nil (n := value))
  have hmem : digit ∈ Nat.toDigits 10 value := hcons ▸ List.mem_cons_self
  exact ⟨digit, digits, hcons, Nat.isDigit_of_mem_toDigits (by decide) (by decide) hmem⟩

/-- The digits of a number that is not zero do not start with a zero. -/
theorem head?_toDigits {value : Nat} (h : 0 < value) : (Nat.toDigits 10 value).head? ≠ some '0' := by
  induction value using Nat.strongRecOn with
  | ind value ih =>
      rw [Nat.toDigits_eq_if (by decide)]
      split_ifs with hsmall
      · have hdigit : ∀ digit < 10, 0 < digit → Nat.digitChar digit ≠ '0' := by decide
        rw [List.head?_cons]
        exact fun heq => hdigit value hsmall h (Option.some.inj heq)
      · rw [List.head?_append_of_ne_nil _ Nat.toDigits_ne_nil]
        exact ih (value / 10) (by omega) (by omega)

/-- The decimal digits of a number write it. -/
theorem decimalValue_toDigits (value : Nat) : decimalValue (Nat.toDigits 10 value) = value := by
  have h := Nat.ofDigitChars_ten_toDigits (n := value)
  rw [Nat.ofDigitChars_eq_foldl] at h
  simp only [Nat.mul_comm 10] at h
  exact h

/-- Digits are read up to what follows a value. -/
theorem readDigits_append {digits : List Char} (hne : digits ≠ [])
    (hdigits : ∀ c ∈ digits, c.isDigit = true) (hrest : Follows rest) :
    readDigits (digits ++ rest) = some (digits, rest) := by
  have hstop : rest.takeWhile Char.isDigit = [] := by
    cases rest with
    | nil => rfl
    | cons c rest =>
        rcases hrest c rfl with rfl | rfl
        · rfl
        · rfl
  have htake : (digits ++ rest).takeWhile Char.isDigit = digits := by
    rw [List.takeWhile_append_of_pos hdigits, hstop, List.append_nil]
  simp only [readDigits, htake, List.isEmpty_iff, hne, if_false, List.drop_left]

/-- The digits of a natural number are read as the whole part of a number. -/
theorem readInteger_toDigits (value : Nat) (hrest : Follows rest) :
    readInteger (Nat.toDigits 10 value ++ rest) = some (Nat.toDigits 10 value, rest) := by
  rcases Nat.eq_zero_or_pos value with rfl | hpos
  · rfl
  · have hdigits : readDigits (Nat.toDigits 10 value ++ rest)
        = some (Nat.toDigits 10 value, rest) :=
      readDigits_append Nat.toDigits_ne_nil
        (fun _ hc => Nat.isDigit_of_mem_toDigits (by decide) (by decide) hc) hrest
    have hhead := head?_toDigits hpos
    rw [readInteger.eq_def]
    split
    · -- a zero at the start would be read alone
      rename_i tail heq
      obtain ⟨digit, digits, hcons, -⟩ := exists_cons_toDigits value
      rw [hcons] at heq hhead
      injection heq with hzero
      exact absurd (congrArg some hzero) hhead
    · exact hdigits

/-- **A written natural number reads back** if what follows may come after a value. -/
theorem readNumber_natural (value : Nat) (hrest : Follows rest) :
    readNumber ((toString value).toList ++ rest) = some (.natural value, rest) := by
  have hfraction : readFraction rest = some ([], rest) := by
    cases rest with
    | nil => rfl
    | cons c rest => rcases hrest c rfl with rfl | rfl <;> rfl
  have hexponent : readExponent rest = some ([], rest) := by
    cases rest with
    | nil => rfl
    | cons c rest => rcases hrest c rfl with rfl | rfl <;> rfl
  have hunsigned : readUnsigned [] (Nat.toDigits 10 value ++ rest)
      = some (.natural value, rest) := by
    simp only [readUnsigned, readInteger_toDigits value hrest, hfraction, hexponent,
      Option.bind_eq_bind, Option.bind_some, List.isEmpty_nil, Bool.and_self, if_true,
      decimalValue_toDigits, Option.pure_def]
  rw [Nat.toString_eq_repr, Nat.toList_repr, readNumber.eq_def]
  split
  · rename_i tail heq
    obtain ⟨digit, digits, hcons, hdigit⟩ := exists_cons_toDigits value
    rw [hcons] at heq
    injection heq with hsign
    rw [hsign] at hdigit
    exact absurd hdigit (by decide)
  · exact hunsigned

/-! ## White space -/

/-- A new line is passed over. -/
theorem skipSpace_newLine (depth : Nat) (text : List Char) :
    skipSpace (newLine depth ++ text) = skipSpace text := by
  refine List.dropWhile_append_of_pos fun c hc => ?_
  rcases List.mem_cons.mp hc with rfl | hspace
  · rfl
  · rw [List.eq_of_mem_replicate hspace]
    rfl

/-- A character that is no white space is not passed over. -/
theorem skipSpace_cons {c : Char} (h : isSpace c = false) (text : List Char) :
    skipSpace (c :: text) = c :: text := by
  rw [skipSpace, List.dropWhile_cons, h, if_neg Bool.false_ne_true]

/-- A digit is no white space. -/
theorem isSpace_of_isDigit {c : Char} (h : c.isDigit = true) : isSpace c = false := by
  rw [Bool.eq_false_iff]
  intro hspace
  simp only [isSpace, Bool.or_eq_true, beq_iff_eq] at hspace
  rcases hspace with ((rfl | rfl) | rfl) | rfl <;> exact absurd h (by decide)

/-! ## Values -/

/-- The value has no numbers but natural ones, and no broken strings. -/
inductive Plain : Json → Prop where
  | null : Plain .null
  | bool (value : Bool) : Plain (.bool value)
  | natural (value : Nat) : Plain (.natural value)
  | string (text : String) : Plain (.string text)
  | array {items : List Json} (h : ∀ item ∈ items, Plain item) : Plain (.array items)
  | object {members : List (String × Json)} (h : ∀ member ∈ members, Plain member.2) :
      Plain (.object members)

variable {value item : Json} {items : List Json} {fuel : Nat}

/-- The text of a value starts with a character that is neither white space nor the end of a
    list. -/
theorem Plain.exists_cons_write (h : Plain value) (depth : Nat) :
    ∃ c text, write depth value = c :: text ∧ isSpace c = false ∧ c ≠ ']' := by
  cases h with
  | null => exact ⟨'n', _, rfl, rfl, by decide⟩
  | bool value => cases value with
    | true => exact ⟨'t', _, rfl, rfl, by decide⟩
    | false => exact ⟨'f', _, rfl, rfl, by decide⟩
  | natural value =>
      obtain ⟨digit, digits, hcons, hdigit⟩ := exists_cons_toDigits value
      refine ⟨digit, digits, ?_, ?_, ?_⟩
      · rw [write, Nat.toString_eq_repr, Nat.toList_repr, hcons]
      · exact isSpace_of_isDigit hdigit
      · rintro rfl
        exact absurd hdigit (by decide)
  | string text => exact ⟨'"', _, rfl, rfl, by decide⟩
  | @array items _ => cases items with
    | nil => exact ⟨'[', _, rfl, rfl, by decide⟩
    | cons item items => exact ⟨'[', _, rfl, rfl, by decide⟩
  | @object members _ => cases members with
    | nil => exact ⟨'\x7b', _, rfl, rfl, by decide⟩
    | cons member members => exact ⟨'\x7b', _, rfl, rfl, by decide⟩

/-- White space is passed over up to a written value. -/
theorem Plain.skipSpace_write (h : Plain value) (depth : Nat) (rest : List Char) :
    skipSpace (write depth value ++ rest) = write depth value ++ rest := by
  obtain ⟨c, text, hcons, hspace, -⟩ := h.exists_cons_write depth
  rw [hcons]
  exact skipSpace_cons hspace (text ++ rest)

/-! ### Steps of the reader -/

/-- A text that starts with a digit is read as a number. -/
theorem readValue_digit {digit : Char} (h : digit.isDigit = true) :
    readValue (fuel + 1) (digit :: text) = readNumber (digit :: text) := by
  rw [readValue]
  all_goals
    intro tail heq
    injection heq with hdigit
    rw [hdigit] at h
    exact absurd h (by decide)

/-- A text that starts with a quote is read as a string. -/
theorem readValue_quote {chars : List Char} (h : readChars text = some (some chars, rest)) :
    readValue (fuel + 1) ('"' :: text) = some (.string (String.ofList chars), rest) := by
  rw [readValue, h]

/-- A list is read from its first item on. -/
theorem readValue_bracket (hopen : skipSpace text = after) (hitem : ∀ tail, after ≠ ']' :: tail)
    (h : readItems fuel after = some (items, rest)) :
    readValue (fuel + 1) ('[' :: text) = some (.array items, rest) := by
  rw [readValue, hopen]
  simp only [h, Option.map_some]

/-- The last item of a list. -/
theorem readItems_last (hitem : readValue fuel text = some (item, rest))
    (hclose : skipSpace rest = ']' :: after) :
    readItems (fuel + 1) text = some ([item], after) := by
  rw [readItems, hitem]
  simp only [hclose]

/-- An item of a list that others follow. -/
theorem readItems_more {next : List Char} (hitem : readValue fuel text = some (item, rest))
    (hcomma : skipSpace rest = ',' :: next)
    (hitems : readItems fuel (skipSpace next) = some (items, after)) :
    readItems (fuel + 1) text = some (item :: items, after) := by
  rw [readItems, hitem]
  simp only [hcomma, hitems, Option.map_some]

variable {name : Option (List Char)} {members : List (Option (List Char) × Json)}

/-- An object is read from the name of its first member on. -/
theorem readValue_brace (hopen : skipSpace text = '"' :: after)
    (h : readMembers fuel ('"' :: after) = some (members, rest)) :
    readValue (fuel + 1) ('\x7b' :: text) = some (objectOf members, rest) := by
  have hread : readValue (fuel + 1) ('\x7b' :: text)
      = (readMembers fuel ('"' :: after)).map fun read => (objectOf read.1, read.2) := by
    rw [readValue, hopen]
    rfl
  rw [hread, h, Option.map_some]

/-- The last member of an object. -/
theorem readMembers_last {afterName afterColon : List Char}
    (hname : readChars text = some (name, afterName))
    (hcolon : skipSpace afterName = ':' :: afterColon)
    (hvalue : readValue fuel (skipSpace afterColon) = some (value, rest))
    (hclose : skipSpace rest = '\x7d' :: after) :
    readMembers (fuel + 1) ('"' :: text) = some ([(name, value)], after) := by
  rw [readMembers, hname]
  simp only [hcolon, hvalue, hclose]

/-- A member of an object that others follow. -/
theorem readMembers_more {afterName afterColon next : List Char}
    (hname : readChars text = some (name, afterName))
    (hcolon : skipSpace afterName = ':' :: afterColon)
    (hvalue : readValue fuel (skipSpace afterColon) = some (value, rest))
    (hcomma : skipSpace rest = ',' :: next)
    (hmembers : readMembers fuel (skipSpace next) = some (members, after)) :
    readMembers (fuel + 1) ('"' :: text) = some ((name, value) :: members, after) := by
  rw [readMembers, hname]
  simp only [hcolon, hvalue, hcomma, hmembers, Option.map_some]

/-- Members that all have a name make an object. -/
theorem objectOf_map_some (members : List (String × Json)) :
    objectOf (members.map fun member => (some member.1.toList, member.2)) = .object members := by
  have hall : (members.map fun member => (some member.1.toList, member.2)).all (·.1.isSome)
      = true := by
    rw [List.all_map]
    exact List.all_eq_true.mpr fun _ _ => rfl
  rw [objectOf, if_pos hall, List.map_map]
  congr 1
  rw [List.map_congr_left (g := id)]
  · exact List.map_id members
  · intro member _
    simp

/-! ### The induction -/

/-- The items of a list as they are written between the brackets, from the first one on. -/
def itemsText (depth : Nat) : List Json → List Char
  | [] => []
  | item :: items => write depth item ++ writeItems depth items

/-- The members of an object as they are written between the braces, from the first one
    on. -/
def membersText (depth : Nat) : List (String × Json) → List Char
  | [] => []
  | (name, value) :: members =>
      writeString name ++ [':', ' '] ++ write depth value ++ writeMembers depth members

/-- A list with items is written over several lines. -/
theorem write_array_cons (depth : Nat) (item : Json) (items : List Json) :
    write depth (.array (item :: items))
      = '[' :: (newLine (depth + 1) ++ (itemsText (depth + 1) (item :: items)
        ++ (newLine depth ++ [']']))) := by
  simp only [write, itemsText, List.append_assoc]

/-- An object with members is written over several lines. -/
theorem write_object_cons (depth : Nat) (member : String × Json)
    (members : List (String × Json)) :
    write depth (.object (member :: members))
      = '\x7b' :: (newLine (depth + 1) ++ (membersText (depth + 1) (member :: members)
        ++ (newLine depth ++ ['\x7d']))) := by
  obtain ⟨name, value⟩ := member
  simp only [write, membersText, List.append_assoc]

/-- White space is passed over up to the first item of a list. -/
theorem skipSpace_itemsText (h : Plain item) (line depth : Nat) (items : List Json)
    (text : List Char) :
    skipSpace (newLine line ++ (itemsText depth (item :: items) ++ text))
      = itemsText depth (item :: items) ++ text := by
  rw [skipSpace_newLine, itemsText, List.append_assoc, h.skipSpace_write]

/-- An item is written on a line of its own behind a comma. -/
theorem itemsText_cons_cons (depth : Nat) (item next : Json) (items : List Json) :
    itemsText depth (item :: next :: items)
      = write depth item ++ (',' :: (newLine depth ++ itemsText depth (next :: items))) := by
  simp only [itemsText, writeItems, List.append_assoc]

/-- A member starts with the quote of its name. -/
theorem membersText_cons (depth : Nat) (name : String) (value : Json)
    (members : List (String × Json)) (text : List Char) :
    membersText depth ((name, value) :: members) ++ text
      = '"' :: (name.toList.flatMap escapeChar
        ++ ('"' :: ':' :: ' ' :: (write depth value ++ (writeMembers depth members ++ text)))) := by
  simp only [membersText, writeString, List.cons_append, List.append_assoc, List.nil_append]

/-- White space is passed over up to the first member of an object. -/
theorem skipSpace_membersText (line depth : Nat) (member : String × Json)
    (members : List (String × Json)) (text : List Char) :
    skipSpace (newLine line ++ (membersText depth (member :: members) ++ text))
      = membersText depth (member :: members) ++ text := by
  rw [skipSpace_newLine, membersText_cons]
  exact skipSpace_cons rfl _

/-- A member is written on a line of its own behind a comma. -/
theorem writeMembers_cons (depth : Nat) (member : String × Json)
    (members : List (String × Json)) :
    writeMembers depth (member :: members)
      = ',' :: (newLine depth ++ membersText depth (member :: members)) := by
  obtain ⟨name, value⟩ := member
  simp only [writeMembers, membersText, List.append_assoc]

-- Each step of the reader costs one unit of fuel and passes at least one character, so fuel
-- for the characters of the text is enough for the steps.
mutual

/-- A written value is read back, with any text after it that may come after a value. -/
theorem readValue_write : ∀ (value : Json) (depth fuel : Nat) (rest : List Char),
    Plain value → Follows rest → (write depth value).length ≤ fuel →
      readValue fuel (write depth value ++ rest) = some (value, rest)
  | .null, _, fuel + 1, rest, _, _, _ => rfl
  | .bool true, _, fuel + 1, rest, _, _, _ => rfl
  | .bool false, _, fuel + 1, rest, _, _, _ => rfl
  | .natural value, depth, fuel + 1, rest, _, hrest, _ => by
      obtain ⟨digit, digits, hcons, hdigit⟩ := exists_cons_toDigits value
      have hnumber := readNumber_natural value hrest
      rw [Nat.toString_eq_repr, Nat.toList_repr, hcons, List.cons_append] at hnumber
      rw [write, Nat.toString_eq_repr, Nat.toList_repr, hcons, List.cons_append,
        readValue_digit hdigit, hnumber]
  | .string text, depth, fuel + 1, rest, _, _, _ => by
      have hchars := readChars_writeString text rest
      rw [write, writeString, List.cons_append, List.append_assoc, List.singleton_append,
        readValue_quote hchars, String.ofList_toList]
  | .array [], _, fuel + 1, rest, _, _, _ => rfl
  | .array (item :: items), depth, fuel + 1, rest, .array hplain, _, hfuel => by
      rw [write_array_cons] at hfuel ⊢
      have hitems := readItems_itemsText (item :: items) (depth + 1) depth fuel rest hplain
        (List.cons_ne_nil item items) (by
          simp only [List.length_cons, List.length_append] at hfuel
          omega)
      have hitem : Plain item := hplain item List.mem_cons_self
      -- the list is not taken for an empty one, since no value starts with a bracket that
      -- closes
      simp only [List.cons_append, List.append_assoc, List.nil_append]
      refine readValue_bracket (skipSpace_itemsText hitem _ _ items _) ?_ hitems
      intro tail heq
      obtain ⟨c, text, hcons, -, hend⟩ := hitem.exists_cons_write (depth + 1)
      rw [itemsText, hcons] at heq
      exact hend (List.cons.inj heq).1
  | .object [], _, fuel + 1, rest, _, _, _ => rfl
  | .object ((name, value) :: members), depth, fuel + 1, rest, .object hplain, _, hfuel => by
      rw [write_object_cons] at hfuel ⊢
      have hmembers := readMembers_membersText ((name, value) :: members) (depth + 1) depth fuel
        rest hplain (List.cons_ne_nil _ members) (by
          simp only [List.length_cons, List.length_append] at hfuel
          omega)
      have hopen := skipSpace_membersText (depth + 1) (depth + 1) (name, value) members
        (newLine depth ++ '\x7d' :: rest)
      simp only [List.cons_append, List.append_assoc, List.nil_append]
      rw [membersText_cons] at hmembers hopen ⊢
      rw [readValue_brace hopen hmembers, objectOf_map_some]
  | value, depth, 0, _, hplain, _, hfuel => by
      obtain ⟨c, text, hcons, -, -⟩ := hplain.exists_cons_write depth
      rw [hcons, List.length_cons] at hfuel
      exact absurd hfuel (by omega)

/-- The written items of a list are read back up to the closing bracket. -/
theorem readItems_itemsText : ∀ (items : List Json) (depth outer fuel : Nat) (rest : List Char),
    (∀ item ∈ items, Plain item) → items ≠ [] → (itemsText depth items).length < fuel →
      readItems fuel (itemsText depth items ++ (newLine outer ++ ']' :: rest))
        = some (items, rest)
  | [item], depth, outer, fuel + 1, rest, hplain, _, hfuel => by
      rw [itemsText, writeItems, List.append_nil] at hfuel ⊢
      have hitem := readValue_write item depth fuel (newLine outer ++ ']' :: rest)
        (hplain item List.mem_cons_self) (follows_newLine outer) (Nat.le_of_lt_succ hfuel)
      exact readItems_last hitem ((skipSpace_newLine outer _).trans (skipSpace_cons rfl rest))
  | item :: next :: items, depth, outer, fuel + 1, rest, hplain, _, hfuel => by
      rw [itemsText_cons_cons, List.length_append, List.length_cons, List.length_append] at hfuel
      have hothers : ∀ other ∈ next :: items, Plain other :=
        fun other hother => hplain other (List.mem_cons_of_mem item hother)
      have hitem := readValue_write item depth fuel
        (',' :: (newLine depth ++ (itemsText depth (next :: items)
          ++ (newLine outer ++ ']' :: rest))))
        (hplain item List.mem_cons_self) follows_comma (by omega)
      have hitems := readItems_itemsText (next :: items) depth outer fuel rest hothers
        (List.cons_ne_nil next items) (by omega)
      rw [← skipSpace_itemsText (hothers next List.mem_cons_self) depth] at hitems
      rw [itemsText_cons_cons]
      simp only [List.cons_append, List.append_assoc]
      exact readItems_more hitem (skipSpace_cons rfl _) hitems
  | [], _, _, _, _, _, hne, _ => absurd rfl hne

/-- The written members of an object are read back up to the closing brace. -/
theorem readMembers_membersText : ∀ (members : List (String × Json)) (depth outer fuel : Nat)
    (rest : List Char), (∀ member ∈ members, Plain member.2) → members ≠ [] →
      (membersText depth members).length < fuel →
      readMembers fuel (membersText depth members ++ (newLine outer ++ '\x7d' :: rest))
        = some (members.map fun member => (some member.1.toList, member.2), rest)
  | [(name, value)], depth, outer, fuel + 1, rest, hplain, _, hfuel => by
      have hlength : (write depth value).length ≤ fuel := by
        simp only [membersText, List.length_append] at hfuel
        omega
      have hplain : Plain value := hplain (name, value) List.mem_cons_self
      have hvalue := readValue_write value depth fuel (newLine outer ++ '\x7d' :: rest) hplain
        (follows_newLine outer) hlength
      rw [← hplain.skipSpace_write] at hvalue
      rw [membersText_cons, writeMembers, List.nil_append]
      exact readMembers_last (readChars_writeString name _) (skipSpace_cons rfl _) hvalue
        ((skipSpace_newLine outer _).trans (skipSpace_cons rfl rest))
  | (name, value) :: next :: members, depth, outer, fuel + 1, rest, hplain, _, hfuel => by
      have hlength : (write depth value).length + (membersText depth (next :: members)).length
          < fuel := by
        simp only [membersText, writeMembers_cons, List.length_append, List.length_cons] at hfuel ⊢
        omega
      have hothers : ∀ other ∈ next :: members, Plain other.2 :=
        fun other hother => hplain other (List.mem_cons_of_mem _ hother)
      have hplain : Plain value := hplain (name, value) List.mem_cons_self
      have hvalue := readValue_write value depth fuel
        (',' :: (newLine depth ++ (membersText depth (next :: members)
          ++ (newLine outer ++ '\x7d' :: rest)))) hplain follows_comma (by omega)
      have hmembers := readMembers_membersText (next :: members) depth outer fuel rest hothers
        (List.cons_ne_nil next members) (by omega)
      rw [← hplain.skipSpace_write] at hvalue
      rw [← skipSpace_membersText depth] at hmembers
      rw [membersText_cons, writeMembers_cons, List.cons_append, List.append_assoc]
      exact readMembers_more (readChars_writeString name _) (skipSpace_cons rfl _) hvalue
        (skipSpace_cons rfl _) hmembers
  | [], _, _, _, _, _, hne, _ => absurd rfl hne

end

/-- **A written value reads back** if it has no numbers but natural ones and no broken
    strings. -/
theorem read?_pretty (h : Plain value) : read? value.pretty = some value := by
  have hvalue := readValue_write value 0 ((write 0 value).length + 1) [] h follows_nil
    (Nat.le_succ _)
  have hstart := h.skipSpace_write 0 []
  rw [List.append_nil] at hvalue hstart
  simp only [read?, pretty, String.toList_ofList, hstart, hvalue]
  rfl

end CatalogLint.Json
