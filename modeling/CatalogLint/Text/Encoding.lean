/-! # Reading bytes as text

    Files are read as UTF-8 if they are valid UTF-8.  The others are decoded: a byte
    order mark selects the encoding, and without one every byte is a character of
    windows-1252.  Bytes that are wrong in the selected encoding are no text. -/

namespace CatalogLint.Text

/-- The text of bytes that are valid UTF-8. -/
def readUtf8? (bytes : ByteArray) : Option String :=
  String.fromUTF8? bytes

/-- The characters of windows-1252 from 0x80 to 0x9F; all others have the code point
    of their byte. -/
def windows1252High : List Nat :=
  [0x20AC, 0x81, 0x201A, 0x192, 0x201E, 0x2026, 0x2020, 0x2021, 0x2C6, 0x2030, 0x160, 0x2039,
    0x152, 0x8D, 0x17D, 0x8F, 0x90, 0x2018, 0x2019, 0x201C, 0x201D, 0x2022, 0x2013, 0x2014,
    0x2DC, 0x2122, 0x161, 0x203A, 0x153, 0x9D, 0x17E, 0x178]

/-- The character of a byte of windows-1252. -/
def windows1252Char (byte : UInt8) : Char :=
  let code := byte.toNat
  if 0x80 ≤ code && code ≤ 0x9F then Char.ofNat (windows1252High.getD (code - 0x80) code)
  else Char.ofNat code

/-- Pairs of bytes as 16-bit units; a single byte at the end belongs to none. -/
def units16? (littleEndian : Bool) : List UInt8 → Option (List Nat)
  | [] => some []
  | [_] => none
  | a :: b :: rest =>
      let unit := if littleEndian then b.toNat * 256 + a.toNat else a.toNat * 256 + b.toNat
      (units16? littleEndian rest).map (unit :: ·)

/-- The first half of a character written as two units. -/
def isHighUnit (unit : Nat) : Bool := 0xD800 ≤ unit && unit ≤ 0xDBFF

/-- The second half of a character written as two units. -/
def isLowUnit (unit : Nat) : Bool := 0xDC00 ≤ unit && unit ≤ 0xDFFF

/-- The character of two halves. -/
def joinUnits (high low : Nat) : Char :=
  Char.ofNat (0x10000 + (high - 0xD800) * 0x400 + (low - 0xDC00))

/-- The characters that 16-bit units write; a half without its other half is wrong. -/
def decodeUnits? : List Nat → Option (List Char)
  | [] => some []
  | unit :: rest =>
      if isHighUnit unit then
        match rest with
        | low :: rest =>
            if isLowUnit low then (decodeUnits? rest).map (joinUnits unit low :: ·) else none
        | [] => none
      else if isLowUnit unit then none
      else (decodeUnits? rest).map (Char.ofNat unit :: ·)

/-- The text of bytes that are not valid UTF-8. -/
def decodeOther? : List UInt8 → Option String
  | 0xEF :: 0xBB :: 0xBF :: _ => none
  | 0xFF :: 0xFE :: rest => ((units16? true rest).bind decodeUnits?).map String.ofList
  | 0xFE :: 0xFF :: rest => ((units16? false rest).bind decodeUnits?).map String.ofList
  | bytes => some (String.ofList (bytes.map windows1252Char))

/-- The text of a file: valid UTF-8 as it is, anything else decoded. -/
def decode? (bytes : ByteArray) : Option String :=
  match readUtf8? bytes with
  | some text => some text
  | none => decodeOther? bytes.toList

end CatalogLint.Text
