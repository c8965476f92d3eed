import BankLedger.Json.Number
import BankLedger.Text.Digits

/-!
# JSON values and their text

The values of the JSON data format. A record is a list of members in the order in which they are
written.

The text is compact: no blanks. Strings escape the quote, the backslash and the control characters,
and leave every other character as it is.

## Main definitions

* `Json`: A value.
* `Json.toText`: Its compact text.
-/

namespace BankLedger

/-- A value of the JSON data format. -/
inductive Json where
  | null
  | bool (b : Bool)
  | number (n : Json.Number)
  | text (s : String)
  | list (items : List Json)
  /-- Members in the order in which they are written. -/
  | record (members : List (String × Json))

namespace Json

instance : Inhabited Json := ⟨null⟩

/-- One character inside a string: control characters have a short name or four digits. -/
def escapeChar (c : Char) : List Char :=
  if c = '"' then ['\\', '"']
  else if c = '\\' then ['\\', '\\']
  else if c = '\n' then ['\\', 'n']
  else if c = '\r' then ['\\', 'r']
  else if c = '\t' then ['\\', 't']
  else if c = '\x08' then ['\\', 'b']
  else if c = '\x0c' then ['\\', 'f']
  else if c.toNat < 0x20 then '\\' :: 'u' :: Text.fixedDigits 16 4 c.toNat
  else [c]

/-- A string in its quotes. -/
def stringChars (s : String) : List Char := '"' :: (s.toList.flatMap escapeChar ++ ['"'])

mutual
/-- The compact text of a value. -/
def toChars : Json → List Char
  | .null => ['n', 'u', 'l', 'l']
  | .bool true => ['t', 'r', 'u', 'e']
  | .bool false => ['f', 'a', 'l', 's', 'e']
  | .number n => n.toChars
  | .text s => stringChars s
  | .list [] => ['[', ']']
  | .list (v :: vs) => '[' :: (toChars v ++ itemChars vs ++ [']'])
  | .record [] => ['\x7b', '\x7d']
  | .record (m :: ms) =>
      '\x7b' :: (stringChars m.1 ++ ':' :: toChars m.2 ++ memberChars ms ++ ['\x7d'])
/-- The items after the first, each behind a comma. -/
def itemChars : List Json → List Char
  | [] => []
  | v :: vs => ',' :: (toChars v ++ itemChars vs)
/-- The members after the first, each behind a comma. -/
def memberChars : List (String × Json) → List Char
  | [] => []
  | m :: ms => ',' :: (stringChars m.1 ++ ':' :: toChars m.2 ++ memberChars ms)
end

/-- The compact text of a value as a string. -/
def toText (v : Json) : String := String.ofList v.toChars

/-- A whole number as a value. -/
def ofInt (n : Int) : Json := .number (.whole n)

/-- A value for something that may be absent: null when it is. -/
def ofOption {α : Type} (f : α → Json) : Option α → Json
  | none => .null
  | some a => f a

end Json

end BankLedger
