import CatalogLint.Sorted
import Mathlib.Algebra.Group.Nat.Defs

/-! # Texts in the order of their bytes

    Strings are ordered by code point.  This is the order of the bytes that write them in
    UTF-8 (`utf8Bytes_lt`): of two characters the lesser one has the lesser first byte, or
    the same first byte and the lesser bytes after it. -/

namespace CatalogLint.Text

/-! ## The bytes of a character -/

/-- The bytes after the first one: six bits of the code point in each. -/
def continuationBytes (code : Nat) : Nat → List UInt8
  | 0 => []
  | more + 1 => UInt8.ofNat (code / 64 ^ more % 64 + 0x80) :: continuationBytes code more

/-- The first byte of a character and how many more there are, by its code point. -/
inductive Lead (code : Nat) : Nat → Nat → Prop where
  | one (h : code < 0x80) : Lead code code 0
  | two (h : 0x80 ≤ code) (h' : code < 0x800) : Lead code (code / 64 + 0xC0) 1
  | three (h : 0x800 ≤ code) (h' : code < 0x10000) : Lead code (code / 64 ^ 2 + 0xE0) 2
  | four (h : 0x10000 ≤ code) (h' : code < 0x110000) : Lead code (code / 64 ^ 3 + 0xF0) 3

/-- The code points of characters. -/
theorem toNat_lt (c : Char) : c.toNat < 0x110000 := by
  rcases c.valid with h | h
  · have hlow : c.toNat < 0xD800 := h
    omega
  · exact h.2

/-- A character is written by its first byte and the bytes after it. -/
theorem utf8EncodeChar_eq (c : Char) :
    ∃ first more, Lead c.toNat first more
      ∧ String.utf8EncodeChar c = UInt8.ofNat first :: continuationBytes c.toNat more := by
  have hmax := toNat_lt c
  have hval : c.val.toNat = c.toNat := rfl
  rw [String.utf8EncodeChar, hval]
  -- the bits in the first byte are cut off at its size, which they fit into
  split
  · exact ⟨_, _, .one (by omega), rfl⟩
  · split
    · refine ⟨_, _, .two (by omega) (by omega), ?_⟩
      rw [Nat.mod_eq_of_lt (show c.toNat / 64 < 0x20 by omega)]
      simp [continuationBytes]
    · split
      · refine ⟨_, _, .three (by omega) (by omega), ?_⟩
        rw [Nat.mod_eq_of_lt (show c.toNat / 4096 < 0x10 by omega)]
        simp [continuationBytes]
      · refine ⟨_, _, .four (by omega) (by omega), ?_⟩
        rw [Nat.mod_eq_of_lt (show c.toNat / 262144 < 0x08 by omega)]
        simp [continuationBytes]

/-! ## The order of the bytes -/

variable {v w : Nat}

/-- Lists whose first byte is given by a number are in the order of the numbers, and then
    in that of the other bytes. -/
theorem ofNat_cons_lt {a b : Nat} (hb : b < 256) {rest rest' : List UInt8}
    (h : a < b ∨ a = b ∧ rest < rest') : UInt8.ofNat a :: rest < UInt8.ofNat b :: rest' := by
  have ha : a < 256 := by omega
  rw [List.cons_lt_cons_iff, UInt8.lt_iff_toNat_lt, ← UInt8.toNat_inj,
    UInt8.toNat_ofNat_of_lt' ha, UInt8.toNat_ofNat_of_lt' hb]
  exact h

/-- The first byte of the lesser code point is less, or it is the same and so are the bits
    in it. -/
theorem Lead.lt_or {first first' more more' : Nat} (h : Lead v first more)
    (h' : Lead w first' more') (hlt : v < w) :
    first' < 256 ∧ (first < first'
      ∨ first = first' ∧ more = more' ∧ v / 64 ^ more' = w / 64 ^ more') := by
  cases h <;> cases h' <;> omega

/-- The bytes after the first one are in the order of the code points, if the bits before
    them are the same. -/
theorem continuationBytes_append_lt (h : v < w) (more : Nat)
    (hsame : v / 64 ^ more = w / 64 ^ more) (rest rest' : List UInt8) :
    continuationBytes v more ++ rest < continuationBytes w more ++ rest' := by
  induction more with
  | zero =>
      rw [Nat.pow_zero, Nat.div_one, Nat.div_one] at hsame
      exact absurd hsame (Nat.ne_of_lt h)
  | succ more ih =>
      rw [Nat.pow_succ, ← Nat.div_div_eq_div_mul, ← Nat.div_div_eq_div_mul] at hsame
      have hle : v / 64 ^ more ≤ w / 64 ^ more := Nat.div_le_div_right (Nat.le_of_lt h)
      refine ofNat_cons_lt (by omega) ?_
      rcases Nat.lt_or_eq_of_le hle with hlt | heq
      · exact Or.inl (by omega)
      · exact Or.inr ⟨by rw [heq], ih heq⟩

/-- Of two characters, the bytes of the lesser come first, whatever follows them. -/
theorem utf8EncodeChar_append_lt {c d : Char} (h : c < d) (rest rest' : List UInt8) :
    String.utf8EncodeChar c ++ rest < String.utf8EncodeChar d ++ rest' := by
  obtain ⟨first, more, hfirst, hc⟩ := utf8EncodeChar_eq c
  obtain ⟨first', more', hfirst', hd⟩ := utf8EncodeChar_eq d
  obtain ⟨hbyte, horder⟩ := hfirst.lt_or hfirst' h
  rw [hc, hd]
  refine ofNat_cons_lt hbyte (horder.imp_right ?_)
  rintro ⟨rfl, rfl, hsame⟩
  exact ⟨rfl, continuationBytes_append_lt h more hsame rest rest'⟩

/-! ## The order of texts -/

/-- The bytes of a text in UTF-8. -/
def utf8Bytes (text : String) : List UInt8 :=
  text.toUTF8.data.toList

/-- The bytes of a text are those of its characters. -/
theorem utf8Bytes_eq (text : String) :
    utf8Bytes text = text.toList.flatMap String.utf8EncodeChar := by
  show text.toByteArray.data.toList = _
  rw [← String.utf8Encode_toList, List.utf8Encode, List.data_toByteArray, List.toList_toArray]

/-- The bytes of characters are in the order of the characters. -/
theorem flatMap_utf8EncodeChar_lt {text text' : List Char} (h : text < text') :
    text.flatMap String.utf8EncodeChar < text'.flatMap String.utf8EncodeChar := by
  induction h with
  | @nil c text =>
      obtain ⟨first, more, -, hc⟩ := utf8EncodeChar_eq c
      rw [List.flatMap_cons, hc]
      exact List.Lex.nil
  | @cons c text text' _ ih =>
      rw [List.flatMap_cons, List.flatMap_cons]
      exact List.append_left_lt ih
  | rel h => exact utf8EncodeChar_append_lt h _ _

/-- **Texts are in the order of their bytes.** -/
theorem utf8Bytes_lt {text text' : String} (h : text < text') :
    utf8Bytes text < utf8Bytes text' := by
  rw [utf8Bytes_eq, utf8Bytes_eq]
  exact flatMap_utf8EncodeChar_lt h

end CatalogLint.Text
