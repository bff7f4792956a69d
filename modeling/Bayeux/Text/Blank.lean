namespace Bayeux
namespace Text

/-!
# White space

Which characters are blank by the Unicode property of white space, and the trimming of
text by it.
-/

/-- The characters with the property White_Space. -/
def isBlank (c : Char) : Bool :=
  let point := c.toNat
  (9 ≤ point && point ≤ 13) || point == 0x20 || point == 0x85 || point == 0xA0 ||
    point == 0x1680 || (0x2000 ≤ point && point ≤ 0x200A) || point == 0x2028 ||
    point == 0x2029 || point == 0x202F || point == 0x205F || point == 0x3000

/-- Drops blanks at the front. -/
def trimStart (text : List Char) : List Char :=
  text.dropWhile isBlank

/-- Drops blanks at the end. -/
def trimEnd (text : List Char) : List Char :=
  (text.reverse.dropWhile isBlank).reverse

/-- Drops blanks at both ends. -/
def trim (text : List Char) : List Char :=
  trimEnd (trimStart text)

/-- Drops blanks at both ends of a string. -/
def trimmed (text : String) : String :=
  String.ofList (trim text.toList)

end Text
end Bayeux
