/-!
# Blank characters

White space in the sense of the character standard's property White_Space: the ASCII blanks, the
next-line character, and the spaces and separators of other scripts. A zero-width space is not one
of them.

Byte strings that may not be text yet have a smaller notion: a blank byte is one of the five ASCII
blanks that fields of a table are padded with.

## Main definitions

* `Text.isBlank`: The character is white space.
* `Text.trim`: A text without the blanks at its two ends.
* `Text.trimBytes`: A byte string without the blank bytes at its two ends.
-/

namespace BankLedger

namespace Text

/-- The character is white space. -/
def isBlank (c : Char) : Bool :=
  let n := c.toNat
  (0x09 ≤ n && n ≤ 0x0D) || n == 0x20 || n == 0x85 || n == 0xA0 || n == 0x1680 ||
    (0x2000 ≤ n && n ≤ 0x200A) || n == 0x2028 || n == 0x2029 || n == 0x202F || n == 0x205F ||
    n == 0x3000

/-- The elements between the first and the last one that `p` refuses. -/
def trimBy {α : Type} (p : α → Bool) (xs : List α) : List α :=
  ((xs.dropWhile p).reverse.dropWhile p).reverse

/-- A text without the blanks at its start. -/
def trimStart (cs : List Char) : List Char := cs.dropWhile isBlank

/-- A text without the blanks at its two ends. -/
def trimChars (cs : List Char) : List Char := trimBy isBlank cs

/-- A string without the blanks at its two ends. -/
def trim (s : String) : String := String.ofList (trimChars s.toList)

/-- The byte is an ASCII blank other than the vertical tab. -/
def isBlankByte (b : UInt8) : Bool :=
  b == 0x20 || b == 0x09 || b == 0x0A || b == 0x0C || b == 0x0D

/-- A byte string without the blank bytes at its two ends. -/
def trimBytes (bs : List UInt8) : List UInt8 := trimBy isBlankByte bs

/-- Upper case for the letters of ASCII; other letters stay. -/
def upperAscii (s : String) : String := String.ofList (s.toList.map Char.toUpper)

end Text

end BankLedger
