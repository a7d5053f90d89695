namespace PrivateRetrieval
namespace Text

/-!
# Blank characters

The characters that separate words: the Unicode property `White_Space`.  Text is handled as a list
of characters here, so that trimming is `dropWhile` at one end or the other and nothing about
string positions has to be known.  A zero-width space (`U+200B`) is not blank.
-/

/-- A character of the Unicode property `White_Space`. -/
def isBlank (c : Char) : Bool :=
  let point := c.val.toNat
  (0x9 ≤ point && point ≤ 0xD) || point == 0x20 || point == 0x85 || point == 0xA0 ||
    point == 0x1680 || (0x2000 ≤ point && point ≤ 0x200A) || point == 0x2028 || point == 0x2029 ||
    point == 0x202F || point == 0x205F || point == 0x3000

/-- The text without its leading blanks. -/
def trimStart (text : List Char) : List Char :=
  text.dropWhile isBlank

/-- The text without its trailing blanks. -/
def trimEnd (text : List Char) : List Char :=
  (text.reverse.dropWhile isBlank).reverse

/-- The text without the blanks at either end. -/
def trim (text : List Char) : List Char :=
  trimEnd (trimStart text)

end Text
end PrivateRetrieval
