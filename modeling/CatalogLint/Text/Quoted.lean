import CatalogLint.Unicode.Property

/-! # Texts shown in quotes

    In messages some texts are shown in double quotes, with everything escaped that a
    reader could not see or could mistake for a quote. -/

namespace CatalogLint.Text

open Unicode

/-- The hexadecimal digits of a number, in lower case. -/
def hexDigits (value : Nat) : List Char :=
  Nat.toDigits 16 value

/-- A character that shows by itself: it is assigned and is no control, format,
    private-use or separator character; the space counts as showing. -/
def isVisible (c : Char) : Bool :=
  c == ' ' ||
    (!((Property.generalCategory? "c").getD .empty).contains c.toNat
      && !((Property.generalCategory? "z").getD .empty).contains c.toNat)

/-- A mark that joins the character before it. -/
def extendsGrapheme (c : Char) : Bool :=
  ((NamedRanges.find? binaryProperties "graphemeextend").getD []).any (·.contains c.toNat)

/-- A character as it is shown in quotes. -/
def quoteChar (c : Char) : List Char :=
  match c with
  | '"' => ['\\', '"']
  | '\\' => ['\\', '\\']
  | '\n' => ['\\', 'n']
  | '\r' => ['\\', 'r']
  | '\t' => ['\\', 't']
  | '\x00' => ['\\', '0']
  | _ =>
      if ' ' ≤ c && c ≤ '~' then [c]
      else if isVisible c && !extendsGrapheme c then [c]
      else ['\\', 'u', '\x7b'] ++ hexDigits c.toNat ++ ['\x7d']

/-- A text in double quotes. -/
def quoted (text : String) : String :=
  String.ofList ('"' :: (text.toList.flatMap quoteChar ++ ['"']))

end CatalogLint.Text
