/-! # White space

    The characters with the White_Space property, and the removal of white space
    from the ends of a text. -/

namespace CatalogLint.Unicode

/-- A character of white space: the five controls from tab to carriage return,
    the space, the next-line control, and the spaces and separators beyond ASCII. -/
def isBlank (c : Char) : Bool :=
  let code := c.toNat
  (0x9 ≤ code && code ≤ 0xD) || code == 0x20 || code == 0x85 || code == 0xA0
    || code == 0x1680 || (0x2000 ≤ code && code ≤ 0x200A) || code == 0x2028
    || code == 0x2029 || code == 0x202F || code == 0x205F || code == 0x3000

/-- The text without the white space before it. -/
def trimStart (text : List Char) : List Char :=
  text.dropWhile isBlank

/-- The text without the white space after it. -/
def trimEnd (text : List Char) : List Char :=
  (text.reverse.dropWhile isBlank).reverse

/-- The text without the white space at either end. -/
def trim (text : List Char) : List Char :=
  trimEnd (trimStart text)

/-- The last character of the text is white space. -/
def endsBlank (text : List Char) : Bool :=
  text.getLast?.any isBlank

end CatalogLint.Unicode
