import BankLedger.Text.Digits
import BankLedger.Text.Utf8

/-!
# Universally unique identifiers

An identifier is a number of 128 bits. It is written as 32 hexadecimal digits in five groups, and
read in four spellings: with the hyphens, without them, with the hyphens in braces, and with the
hyphens behind `urn:uuid:`.

A text in none of these spellings is refused with the first reason that applies: its length, a
character that is no digit, the number of groups, or the first group of a wrong length.

## Main definitions

* `Uuid`: A number of 128 bits.
* `Uuid.toText`: The hyphenated spelling.
* `Uuid.parse`: Reads the four spellings.
* `Uuid.Fault`: Why a text is refused.
* `Uuid.timeOrdered`: An identifier that sorts by the time it was made.
-/

namespace BankLedger

/-- The number of identifiers, `2 ^ 128`. -/
def Uuid.limit : Nat := 0x1_0000_0000_0000_0000_0000_0000_0000_0000

/-- An identifier of 128 bits. -/
structure Uuid where
  /-- The bits, as a number. -/
  value : Nat
  /-- There are 128 of them. -/
  value_lt : value < Uuid.limit
deriving DecidableEq

namespace Uuid

/-- The identifier with the low 128 bits of a number. -/
def ofNat (n : Nat) : Uuid := ⟨n % limit, Nat.mod_lt _ (by decide)⟩

instance : Inhabited Uuid := ⟨ofNat 0⟩

/-- Identifiers are ordered by their bytes, the first byte first. -/
def compare (a b : Uuid) : Ordering := Ord.compare a.value b.value

/-- The 32 digits without hyphens. -/
def plainDigits (u : Uuid) : List Char := Text.fixedDigits 16 32 u.value

/-- Sets hyphens between groups of eight, four, four, four and twelve digits. -/
def hyphenate (ds : List Char) : List Char :=
  ds.take 8 ++ '-' :: ((ds.drop 8).take 4 ++ '-' :: ((ds.drop 12).take 4 ++ '-' ::
    ((ds.drop 16).take 4 ++ '-' :: ds.drop 20)))

/-- The hyphenated spelling, lower case. -/
def toChars (u : Uuid) : List Char := hyphenate u.plainDigits

/-- The hyphenated spelling as a string. -/
def toText (u : Uuid) : String := String.ofList u.toChars

/-- Why a text is no identifier. -/
inductive Fault where
  /-- The number of bytes fits no spelling. -/
  | length (found : Nat)
  /-- A character that is neither a digit nor a hyphen, and the position of its byte. -/
  | character (c : Char) (position : Nat)
  /-- The hyphens make a wrong number of groups. -/
  | groupCount (found : Nat)
  /-- The first group of a wrong length. -/
  | groupLength (group expected found : Nat)
deriving DecidableEq

/-- The reason in words. -/
def Fault.message : Fault → String
  | .length n => "invalid length: found " ++ toString n
  | .character c i =>
      "invalid character: found \x60" ++ String.singleton c ++ "\x60 at " ++ toString i
  | .groupCount n => "invalid group count: expected 5, found " ++ toString n
  | .groupLength g e n =>
      "invalid group length in group " ++ toString g ++ ": expected " ++ toString e ++ ", found " ++
        toString n

/-- The mark in front of the spelling as a resource name. -/
def urnMark : List Char := "urn:uuid:".toList

/-- A text without its braces or mark. -/
structure Undressed where
  /-- The text inside. -/
  body : List Char
  /-- The position from which its bytes are counted. -/
  offset : Nat
  /-- The hyphenated spelling is meant. -/
  hyphenated : Bool

/-- The length of the hyphenated spelling. -/
def hyphenatedLength : Nat := 36

/-- Takes off braces or the resource-name mark, unless the text has the length of the hyphenated
    spelling and is meant to be that. What was inside is meant to be hyphenated as well. Inside a
    text of the right length positions are counted from the start of the identifier, otherwise from
    the start of the text. -/
def undress (cs : List Char) (total : Nat) : Undressed :=
  if total = hyphenatedLength then ⟨cs, 0, true⟩
  else if cs.head? = some '\x7b' && 2 ≤ cs.length && cs.getLast? = some '\x7d' then
    ⟨cs.tail.dropLast, if total = hyphenatedLength + 2 then 0 else 1, true⟩
  else if (cs.take urnMark.length).map Char.toLower = urnMark then
    ⟨cs.drop urnMark.length,
      if total = hyphenatedLength + urnMark.length then 0 else urnMark.length, true⟩
  else ⟨cs, 0, false⟩

/-- The first character that is neither a digit nor a hyphen, with the position of its byte. -/
def strayCharacter? (position : Nat) : List Char → Option (Char × Nat)
  | [] => none
  | c :: cs =>
      if Text.isHexDigit c || c == '-' then strayCharacter? (position + c.utf8Size) cs
      else some (c, position)

/-- The lengths that the groups of the hyphenated spelling must have. -/
def groupLengths : List Nat := [8, 4, 4, 4, 12]

/-- The first of the groups, counted from `group`, whose length is off. -/
def wrongGroup? (group : Nat) : List Nat → List Nat → Option Fault
  | expected :: es, found :: fs =>
      if expected = found then wrongGroup? (group + 1) es fs
      else some (.groupLength group expected found)
  | _, _ => none

/-- Why a text of `total` bytes that holds only digits and hyphens is not the hyphenated
    spelling. For the last group the count is that of the whole text less the four groups. -/
def shapeFault (total : Nat) (u : Undressed) : Fault :=
  let groups := u.body.splitOn '-'
  if groups.length = 1 && !u.hyphenated then .length total
  else if groups.length ≠ 5 then .groupCount groups.length
  else (wrongGroup? 0 (groupLengths.take 4) (groups.map List.length)).getD
    (.groupLength 4 12 (total - 24))

/-- The lengths of the groups are those of the hyphenated spelling. -/
def isHyphenated (cs : List Char) : Bool :=
  (cs.splitOn '-').map List.length == groupLengths

/-- Reads an identifier from characters. -/
def parseChars (cs : List Char) : Except Fault Uuid :=
  let total := Text.utf8Length cs
  if total = 0 || 45 < total then .error (.length total)
  else
    let u := undress cs total
    match strayCharacter? u.offset u.body with
    | some (c, i) => .error (.character c i)
    | none =>
        let isPlain := !u.hyphenated && u.body.length = 32 && !u.body.contains '-'
        if isPlain || isHyphenated u.body then
          .ok (ofNat (Text.ofDigits 16 (u.body.filter (· != '-'))))
        else .error (shapeFault total u)

/-- Reads an identifier. -/
def parse (s : String) : Except Fault Uuid := parseChars s.toList

/-- The identifier made at a time in milliseconds, the `serial`-th of its source: the time comes
    first, then the marks of version seven, then the serial number. Different serial numbers give
    different identifiers. -/
def timeOrdered (milliseconds serial : Nat) : Uuid :=
  ofNat (milliseconds <<< 80 + 7 <<< 76 + (serial >>> 62 % 0x1000) <<< 64 + 2 <<< 62 +
    serial % 0x4000_0000_0000_0000)

end Uuid

end BankLedger
