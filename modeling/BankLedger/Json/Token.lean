import BankLedger.Json.Number
import BankLedger.Text.Digits
import BankLedger.Text.Utf8

/-!
# The tokens of a JSON text

A JSON text is first cut into tokens: brackets, commas, colons, names, numerals and strings. The
cut goes on to the first place that is no token, and what stands there depends on what is wanted:
a reader that wants a comma finds something else, a reader that wants a value finds a numeral that
breaks off. So a broken token is a token too, and keeps its fault for whoever wants its value.

Strings know two kinds of fault. An escape that names half of a surrogate pair spoils the value of a
string but not its extent, so a reader that only skips the string does not mind it.

## Main definitions

* `Json.Fault`: Why a text has no value of the wanted kind.
* `Json.Token`: A token, possibly broken.
* `Json.tokens`: The tokens of a text.

## Theorems

* `Json.nextToken_length`: A token takes at least one character.
-/

namespace BankLedger

namespace Json

/-- Why a text does not give a value of the wanted kind. -/
inductive Fault where
  /-- The text is not JSON. -/
  | malformed
  /-- The text is the start of JSON, but ends too early. -/
  | truncated
  | mismatch
deriving DecidableEq

/-- A token of a JSON text. -/
inductive Token where
  | openList
  | closeList
  | openRecord
  | closeRecord
  | comma
  | colon
  /-- The name `null`. -/
  | null
  /-- The name `true` or `false`. -/
  | bool (b : Bool)
  | number (n : Numeral)
  /-- A string; `none` when an escape in it names half a surrogate pair. -/
  | text (s : Option String)
  /-- The text stops being JSON here. A reader that uses the value sees the fault `used`, one that
      skips it `skipped`; `quote` says whether a string begins here. -/
  | broken (used skipped : Fault) (quote : Bool)
deriving DecidableEq

/-- A blank between tokens. -/
def isSpace (c : Char) : Bool := c == ' ' || c == '\n' || c == '\t' || c == '\r'

/-- What a string token amounts to, and the text behind it. -/
abbrev Scanned := Token × List Char

/-- The unit that four hexadecimal digits name. -/
def hexUnit? (a b c d : Char) : Option Nat :=
  if [a, b, c, d].all Text.isHexDigit then some (Text.ofDigits 16 [a, b, c, d]) else none

/-- The first half of a surrogate pair. -/
def isLead (n : Nat) : Bool := 0xD800 ≤ n && n ≤ 0xDBFF

/-- The second half of a surrogate pair. -/
def isTrail (n : Nat) : Bool := 0xDC00 ≤ n && n ≤ 0xDFFF

/-- The character of a surrogate pair. -/
def pairChar (lead trail : Nat) : Char :=
  Char.ofNat ((lead - 0xD800) * 0x400 + (trail - 0xDC00) + 0x10000)

/-- The character that a backslash and one letter name. -/
def shortEscape? (c : Char) : Option Char :=
  if c = '"' || c = '\\' || c = '/' then some c
  else if c = 'b' then some '\x08'
  else if c = 'f' then some '\x0c'
  else if c = 'n' then some '\n'
  else if c = 'r' then some '\r'
  else if c = 't' then some '\t'
  else none

/-- A broken string: the fault that ends it, unless its value was spoilt before. -/
def brokenText (spoilt : Bool) (f : Fault) : Scanned :=
  (.broken (if spoilt then .malformed else f) f true, [])

/-- What a unit adds to a string: the character that it completes, the half that now waits for its
    other half, and whether a half stayed alone. `lead` is the half that waited before it. -/
def joinUnit (lead : Option Nat) (n : Nat) : Option Char × Option Nat × Bool :=
  if isLead n then (none, some n, lead.isSome)
  else if isTrail n then
    match lead with
    | some m => (some (pairChar m n), none, false)
    | none => (none, none, true)
  else (some (Char.ofNat n), none, lead.isSome)

/-- Reads a string behind its opening quote. `done` holds its characters so far, last first, `lead`
    the first half of a surrogate pair if it comes right before, and `spoilt` says whether a half
    has stayed alone. -/
def scanText (done : List Char) (lead : Option Nat) (spoilt : Bool) : List Char → Scanned
  | [] => brokenText spoilt .truncated
  | '"' :: rest =>
      (.text (if spoilt || lead.isSome then none else some (String.ofList done.reverse)), rest)
  | '\\' :: 'u' :: a :: b :: c :: d :: rest =>
      match hexUnit? a b c d with
      | none => brokenText spoilt .malformed
      | some n =>
          let (char, lead', lone) := joinUnit lead n
          scanText (char.toList ++ done) lead' (spoilt || lone) rest
  | '\\' :: 'u' :: rest =>
      brokenText spoilt (if Text.utf8Length rest < 4 then .truncated else .malformed)
  | ['\\'] => brokenText spoilt .truncated
  | '\\' :: c :: rest =>
      match shortEscape? c with
      | some e => scanText (e :: done) none (spoilt || lead.isSome) rest
      | none => brokenText (spoilt || lead.isSome) .malformed
  | c :: rest =>
      if c.toNat < 0x20 then brokenText (spoilt || lead.isSome) .malformed
      else scanText (c :: done) none (spoilt || lead.isSome) rest

/-- A broken token that is no string. -/
def brokenToken (f : Fault) : Scanned := (.broken f f false, [])

/-- A numeral that lacks a digit, where the text goes on with `rest`. A reader that uses the value
    tells the end of the text from something else. -/
def missingDigit (rest : List Char) : Scanned :=
  (.broken (if rest.isEmpty then .truncated else .malformed) .malformed false, [])

/-- Reads the exponent of a numeral, if there is one. -/
def scanExponent (negative : Bool) (whole : List Char) (fraction : Option (List Char))
    (cs : List Char) : Scanned :=
  match cs with
  | [] => (.number ⟨negative, whole, fraction, none⟩, cs)
  | c :: rest =>
      if c = 'e' || c = 'E' then
        let minus := rest.head? == some '-'
        let body := if minus || rest.head? == some '+' then rest.tail else rest
        let ds := body.takeWhile Char.isDigit
        if ds.isEmpty then missingDigit body
        else (.number ⟨negative, whole, fraction, some (minus, ds)⟩, body.drop ds.length)
      else (.number ⟨negative, whole, fraction, none⟩, cs)

/-- Reads the fraction of a numeral, if there is one, and what follows. -/
def scanFraction (negative : Bool) (whole cs : List Char) : Scanned :=
  match cs with
  | '.' :: rest =>
      let ds := rest.takeWhile Char.isDigit
      if ds.isEmpty then missingDigit rest
      else scanExponent negative whole (some ds) (rest.drop ds.length)
  | _ => scanExponent negative whole none cs

/-- Reads a numeral behind its sign: one zero, or digits that start with another one. -/
def scanNumber (negative : Bool) (cs : List Char) : Scanned :=
  let ds := cs.takeWhile Char.isDigit
  if ds.isEmpty then missingDigit cs
  else if ds.head? = some '0' && 1 < ds.length then brokenToken .malformed
  else scanFraction negative ds (cs.drop ds.length)

/-- Reads the rest of a name. -/
def scanName (name : List Char) (token : Token) (cs : List Char) : Scanned :=
  match name, cs with
  | [], rest => (token, rest)
  | _ :: _, [] => brokenToken .truncated
  | n :: ns, c :: rest => if n = c then scanName ns token rest else brokenToken .malformed

/-- A character that is a token by itself. -/
def mark? (c : Char) : Option Token :=
  if c = '[' then some .openList
  else if c = ']' then some .closeList
  else if c = '\x7b' then some .openRecord
  else if c = '\x7d' then some .closeRecord
  else if c = ',' then some .comma
  else if c = ':' then some .colon
  else none

/-- The token that starts with a character. -/
def nextToken (c : Char) (rest : List Char) : Scanned :=
  match mark? c with
  | some t => (t, rest)
  | none =>
      if c = '"' then scanText [] none false rest
      else if c = '-' then scanNumber true rest
      else if c.isDigit then scanNumber false (c :: rest)
      else if c = 'n' then scanName ['u', 'l', 'l'] .null rest
      else if c = 't' then scanName ['r', 'u', 'e'] (.bool true) rest
      else if c = 'f' then scanName ['a', 'l', 's', 'e'] (.bool false) rest
      else brokenToken .malformed

theorem scanText_length (done : List Char) (lead : Option Nat) (spoilt : Bool) (cs : List Char) :
    (scanText done lead spoilt cs).2.length ≤ cs.length := by
  fun_induction scanText done lead spoilt cs <;>
    simp only [brokenText, List.length_cons, List.length_nil] at * <;> omega

theorem scanExponent_length (negative : Bool) (whole : List Char) (fraction : Option (List Char))
    (cs : List Char) : (scanExponent negative whole fraction cs).2.length ≤ cs.length := by
  unfold scanExponent
  cases cs <;> grind [missingDigit, brokenToken]

theorem scanFraction_length (negative : Bool) (whole cs : List Char) :
    (scanFraction negative whole cs).2.length ≤ cs.length := by
  unfold scanFraction
  split <;> grind [scanExponent_length, missingDigit, brokenToken]

theorem scanName_length (name : List Char) (token : Token) (cs : List Char) :
    (scanName name token cs).2.length ≤ cs.length := by
  fun_induction scanName name token cs <;> grind [brokenToken]

/-- A numeral takes no more characters than there are. -/
theorem scanNumber_length (negative : Bool) (cs : List Char) :
    (scanNumber negative cs).2.length ≤ cs.length := by
  grind [scanNumber, scanFraction_length, missingDigit, brokenToken]

/-- A numeral that starts with a digit takes that digit. -/
theorem scanNumber_cons_length (negative : Bool) (c : Char) (rest : List Char)
    (h : c.isDigit = true) : (scanNumber negative (c :: rest)).2.length ≤ rest.length := by
  have := scanFraction_length negative ((c :: rest).takeWhile Char.isDigit)
    ((c :: rest).drop ((c :: rest).takeWhile Char.isDigit).length)
  simp only [scanNumber, List.takeWhile_cons, h, if_true] at *
  grind [missingDigit, brokenToken]

/-- A token takes at least its first character. -/
theorem nextToken_length (c : Char) (rest : List Char) :
    (nextToken c rest).2.length ≤ rest.length := by
  grind [nextToken, scanText_length, scanNumber_length, scanNumber_cons_length, scanName_length,
    brokenToken]

/-- The tokens of a text, up to the first that is broken. -/
def tokens : List Char → List Token
  | [] => []
  | c :: rest =>
      if isSpace c then tokens rest
      else (nextToken c rest).1 :: tokens (nextToken c rest).2
termination_by cs => cs.length
decreasing_by
  · simp
  · exact Nat.lt_succ_of_le (nextToken_length c rest)

end Json

end BankLedger
