import BankLedger.Text.Digits
import BankLedger.Toml.Value

/-!
# Strings of settings files

Strings stand in single or double quotes. Between double quotes a backslash begins an escape;
between single quotes every character stands for itself. Three quotes of a kind begin a string that
may go over several lines: a line end right behind them is left out, up to two quotes may stand in
it, and between double quotes a backslash at the end of a line leaves out everything up to the next
character that is no blank.

## Main definitions

* `Toml.readText`: Reads a string of any of the four kinds.
* `Toml.readLineText`: Reads a string that ends on its line.
-/

namespace BankLedger

namespace Toml

/-- The character of a code point, unless it is half a surrogate pair or too large. -/
def charOf? (n : Nat) : Option Char :=
  if n < 0xD800 || (0xE000 ≤ n && n < 0x110000) then some (Char.ofNat n) else none

/-- Reads a number of hexadecimal digits that names a character. -/
def readCodePoint (digits : Nat) : Reader Char := fun cs =>
  let ds := cs.take digits
  if ds.length = digits && ds.all Text.isHexDigit then
    (charOf? (Text.ofDigits 16 ds)).map (·, cs.drop digits)
  else none

/-- Reads an escape behind its backslash. -/
def readEscape : Reader Char
  | 'b' :: rest => some ('\x08', rest)
  | 't' :: rest => some ('\t', rest)
  | 'n' :: rest => some ('\n', rest)
  | 'f' :: rest => some ('\x0c', rest)
  | 'r' :: rest => some ('\r', rest)
  | '"' :: rest => some ('"', rest)
  | '\\' :: rest => some ('\\', rest)
  | 'u' :: rest => readCodePoint 4 rest
  | 'U' :: rest => readCodePoint 8 rest
  | _ => none

/-- The two kinds of quotes. -/
inductive Quotes where
  | single
  | double
deriving DecidableEq

/-- The quote itself. -/
def Quotes.char : Quotes → Char
  | .single => '\''
  | .double => '"'

/-- Reads the rest of a string on one line; `done` holds its characters so far, last first. -/
def readLineRest (q : Quotes) (done : List Char) : (fuel : Nat) → Reader String
  | 0, _ => none
  | fuel + 1, cs =>
      match cs with
      | [] => none
      | c :: rest =>
          if c = q.char then some (String.ofList done.reverse, rest)
          else if c = '\\' && q = .double then do
            let (e, rest) ← readEscape rest
            readLineRest q (e :: done) fuel rest
          else if isPrintable c then readLineRest q (c :: done) fuel rest
          else none

/-- Skips blanks and line ends. -/
def skipBlankLines : (fuel : Nat) → List Char → List Char
  | 0, cs => cs
  | fuel + 1, cs =>
      let body := skipSpace cs
      match readLineEnd body with
      | some rest => skipBlankLines fuel rest
      | none => body

/-- The text behind a backslash that ends a line, where the next line goes on. -/
def continued? (cs : List Char) : Option (List Char) :=
  (readLineEnd (skipSpace cs)).map fun rest => skipBlankLines rest.length rest

/-- Reads the rest of a string over several lines; `done` holds its characters so far, last first.
    Of five quotes at its end the first two belong to it. -/
def readLongRest (q : Quotes) (done : List Char) : (fuel : Nat) → Reader String
  | 0, _ => none
  | fuel + 1, cs =>
      match cs with
      | [] => none
      | c :: rest =>
          if c = q.char then
            let run := (cs.takeWhile (· == q.char)).length
            if run < 3 then readLongRest q (List.replicate run c ++ done) fuel (cs.drop run)
            else
              let kept := min (run - 3) 2
              some (String.ofList (List.replicate kept c ++ done).reverse, cs.drop (kept + 3))
          else if c = '\\' && q = .double then
            match continued? rest with
            | some rest => readLongRest q done fuel rest
            | none => do
                let (e, rest) ← readEscape rest
                readLongRest q (e :: done) fuel rest
          else
            match readLineEnd cs with
            | some rest => readLongRest q ('\n' :: done) fuel rest
            | none => if isPrintable c then readLongRest q (c :: done) fuel rest else none

/-- The kind of quote that a text begins with. -/
def quotesOf? : List Char → Option Quotes
  | '"' :: _ => some .double
  | '\'' :: _ => some .single
  | _ => none

/-- Reads a string that ends on its line. -/
def readLineText : Reader String := fun cs => do
  let q ← quotesOf? cs
  readLineRest q [] cs.length cs.tail

/-- Reads a string of any kind. -/
def readText : Reader String := fun cs => do
  let q ← quotesOf? cs
  if cs.take 3 = [q.char, q.char, q.char] then
    let body := cs.drop 3
    readLongRest q [] cs.length ((readLineEnd body).getD body)
  else readLineText cs

end Toml

end BankLedger
