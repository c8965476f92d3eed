/-!
# Text from bytes

A byte string is text when it is a sequence of well-formed UTF-8 characters: the shortest encoding
of each, no surrogates, nothing above the last code point. When it is not, the answer is the number
of bytes before the first character that is not well formed.

## Main definitions

* `Text.decodeUtf8`: The characters of a byte string, or where it stops being text.
* `Text.utf8Length`: How many bytes a list of characters takes.
-/

namespace BankLedger

namespace Text

/-- A byte that continues a character. -/
def isTailByte (b : UInt8) : Bool := 0x80 ≤ b && b ≤ 0xBF

/-- The low six bits of a continuing byte. -/
def tailBits (b : UInt8) : Nat := b.toNat % 64

/-- The second byte of a three-byte character that starts with `a` rules out overlong encodings
    and surrogates. -/
def isSecondOfThree (a b : UInt8) : Bool :=
  if a == 0xE0 then 0xA0 ≤ b && b ≤ 0xBF
  else if a == 0xED then 0x80 ≤ b && b ≤ 0x9F
  else isTailByte b

/-- The second byte of a four-byte character that starts with `a` rules out overlong encodings
    and numbers above the last code point. -/
def isSecondOfFour (a b : UInt8) : Bool :=
  if a == 0xF0 then 0x90 ≤ b && b ≤ 0xBF
  else if a == 0xF4 then 0x80 ≤ b && b ≤ 0x8F
  else isTailByte b

/-- Reads the characters of a byte string that starts at offset `start`; `done` holds the ones read
    so far, last first. -/
def decodeUtf8From (start : Nat) (done : List Char) : List UInt8 → Except Nat (List Char)
  | [] => .ok done.reverse
  | a :: rest =>
      if a < 0x80 then decodeUtf8From (start + 1) (Char.ofNat a.toNat :: done) rest
      else if 0xC2 ≤ a && a ≤ 0xDF then
        match rest with
        | b :: rest =>
            if isTailByte b then
              decodeUtf8From (start + 2)
                (Char.ofNat ((a.toNat - 0xC0) * 64 + tailBits b) :: done) rest
            else .error start
        | [] => .error start
      else if 0xE0 ≤ a && a ≤ 0xEF then
        match rest with
        | b :: c :: rest =>
            if isSecondOfThree a b && isTailByte c then
              decodeUtf8From (start + 3)
                (Char.ofNat (((a.toNat - 0xE0) * 64 + tailBits b) * 64 + tailBits c) :: done) rest
            else .error start
        | _ => .error start
      else if 0xF0 ≤ a && a ≤ 0xF4 then
        match rest with
        | b :: c :: d :: rest =>
            if isSecondOfFour a b && isTailByte c && isTailByte d then
              decodeUtf8From (start + 4)
                (Char.ofNat ((((a.toNat - 0xF0) * 64 + tailBits b) * 64 + tailBits c) * 64
                  + tailBits d) :: done) rest
            else .error start
        | _ => .error start
      else .error start

/-- The text of a byte string, or the number of bytes before the first fault. -/
def decodeUtf8 (bytes : List UInt8) : Except Nat String :=
  (decodeUtf8From 0 [] bytes).map String.ofList

/-- The number of bytes that a list of characters takes. -/
def utf8Length : List Char → Nat
  | [] => 0
  | c :: cs => c.utf8Size + utf8Length cs

/-- The bytes of a string. -/
def toBytes (s : String) : List UInt8 := s.toUTF8.toList

end Text

end BankLedger
