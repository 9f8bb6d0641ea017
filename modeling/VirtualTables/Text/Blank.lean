/-!
# White space

White space is the property of the Unicode standard of that name. It is used where text is trimmed
before it is read as a number or a truth value. Engines know the white space of ASCII only.
-/

namespace VirtualTables

/-- The characters outside the ranges `U+0009`–`U+000D` and `U+2000`–`U+200A` that are white
space. -/
def loneBlanks : List Nat :=
  [0x20, 0x85, 0xA0, 0x1680, 0x2028, 0x2029, 0x202F, 0x205F, 0x3000]

/-- Whether a character is white space. -/
def isBlank (c : Char) : Bool :=
  (0x09 ≤ c.toNat && c.toNat ≤ 0x0D) || (0x2000 ≤ c.toNat && c.toNat ≤ 0x200A) ||
    loneBlanks.contains c.toNat

/-- Whether a character is white space of ASCII. -/
def isAsciiBlank (c : Char) : Bool :=
  c = ' ' || ('\t' ≤ c && c ≤ '\r')

/-- Text without the white space at its ends. -/
def trimBlanks (text : List Char) : List Char :=
  ((text.dropWhile isBlank).reverse.dropWhile isBlank).reverse

end VirtualTables
