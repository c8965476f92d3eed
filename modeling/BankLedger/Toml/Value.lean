import BankLedger.Binary64.Text

/-!
# Values of settings files

Settings files are written in the TOML data format. Its values are strings, numbers, truth values,
dates and times, lists and tables. Whole numbers have 64 bits. No setting is a date or a time, so of
these only the fact is kept that they are well formed.

## Main definitions

* `Toml.Value`: A value.
* `Toml.Reader`: A function that reads something at the start of a text.
-/

namespace BankLedger

namespace Toml

/-- A value of a settings file. -/
inductive Value where
  | text (s : String)
  | integer (n : Int)
  | fraction (x : Binary64.Datum)
  | bool (b : Bool)
  /-- A date, a time, or both. -/
  | moment
  | list (items : List Value)
  | table (entries : List (String × Value))

instance : Inhabited Value := ⟨.table []⟩

/-- Reads something at the start of a text: what it is, and the text behind it. -/
abbrev Reader (α : Type) := List Char → Option (α × List Char)

/-- A blank within a line. -/
def isSpace (c : Char) : Bool := c == ' ' || c == '\t'

/-- The text without the blanks at its start. -/
def skipSpace (cs : List Char) : List Char := cs.dropWhile isSpace

/-- A character that may stand in a comment or in quotes: a tab, or no control character. -/
def isPrintable (c : Char) : Bool := c == '\t' || (0x20 ≤ c.toNat && c.toNat != 0x7F)

/-- Reads the end of a line. A carriage return alone is none. -/
def readLineEnd : List Char → Option (List Char)
  | '\n' :: rest => some rest
  | '\r' :: '\n' :: rest => some rest
  | _ => none

/-- Skips a comment, if there is one, up to the end of its line. -/
def skipComment : List Char → List Char
  | '#' :: rest => rest.dropWhile isPrintable
  | cs => cs

/-- Skips blanks, line ends, and comments that end with their line. -/
def skipLines : (fuel : Nat) → List Char → List Char
  | 0, cs => cs
  | fuel + 1, cs =>
      let body := skipSpace cs
      match readLineEnd (skipComment body) with
      | some rest => skipLines fuel rest
      | none => body

end Toml

end BankLedger
