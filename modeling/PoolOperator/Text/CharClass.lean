import PoolOperator.Text.WordRanges

/-!
# Classes of characters

The blanks and the word characters of Unicode.  In ASCII, the word characters
are the letters, the digits and the underscore, and the blanks are the space
and the control characters from tab to carriage return.
-/

namespace PoolOperator.Text

/-- Is the character in one of the runs? -/
def inRanges (ranges : Array (Nat × Nat)) (char : Char) : Bool :=
  ranges.any fun (first, last) => first ≤ char.toNat && char.toNat ≤ last

/-- Is the character a letter, digit or underscore of ASCII? -/
def isAsciiWord (char : Char) : Bool := char.isAlphanum || char = '_'

/-- Is the character part of a word? -/
def isWord (char : Char) : Bool :=
  if char.toNat < 0x80 then isAsciiWord char else inRanges wordRanges char

/-- Is the character a blank? -/
def isBlank (char : Char) : Bool :=
  let code := char.toNat
  (0x9 ≤ code && code ≤ 0xD) || code = 0x20 || code = 0x85 || code = 0xA0 || code = 0x1680
    || (0x2000 ≤ code && code ≤ 0x200A) || code = 0x2028 || code = 0x2029 || code = 0x202F
    || code = 0x205F || code = 0x3000

/-- Does a text hold nothing but blanks? -/
def allBlank (text : String) : Bool := text.toList.all isBlank

end PoolOperator.Text
