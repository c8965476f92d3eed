import BankLedger.Instant
import BankLedger.Toml.Value

/-!
# Numbers, dates and times of settings files

Values without quotes and brackets: numbers, truth values, dates and times. Each is read from the
characters up to the next one that cannot be part of such a value, and these characters must be a
value as a whole.

Digits may be set apart by single underscores. A whole number in base ten has no leading zero; one
in base two, eight or sixteen has a mark in front and no sign. A fraction has a point, an exponent,
or both, with digits on either side of the point.

## Main definitions

* `Toml.integerOf?`, `Toml.fractionOf?`: The numbers.
* `Toml.isMoment`: The text is a date, a time, or both.
* `Toml.readScalar`: Reads one of these values.
-/

namespace BankLedger

namespace Toml

/-- The digits without the underscores, each of which must stand between two digits. -/
def plainDigits? (isDigit : Char → Bool) (cs : List Char) : Option (List Char) :=
  let groups := cs.splitOn '_'
  if groups.all fun g => !g.isEmpty && g.all isDigit then some groups.flatten else none

/-- A whole number that fits 64 bits. -/
def inRange? (n : Int) : Option Int :=
  if -0x8000_0000_0000_0000 ≤ n ∧ n < 0x8000_0000_0000_0000 then some n else none

/-- The digits of a whole number in base ten: no leading zero. -/
def decimalDigits? (cs : List Char) : Option (List Char) := do
  let ds ← plainDigits? Char.isDigit cs
  if 1 < ds.length && ds.head? = some '0' then none else some ds

/-- A digit of base eight. -/
def isOctalDigit (c : Char) : Bool := '0' ≤ c && c ≤ '7'

/-- A digit of base two. -/
def isBinaryDigit (c : Char) : Bool := c == '0' || c == '1'

/-- A whole number in a base, without a sign. -/
def basedOf? (base : Nat) (isDigit : Char → Bool) (cs : List Char) : Option Int := do
  let ds ← plainDigits? isDigit cs
  inRange? (Text.ofDigits base ds)

/-- A whole number. -/
def integerOf? : List Char → Option Int
  | '0' :: 'x' :: ds => basedOf? 16 Text.isHexDigit ds
  | '0' :: 'o' :: ds => basedOf? 8 isOctalDigit ds
  | '0' :: 'b' :: ds => basedOf? 2 isBinaryDigit ds
  | cs => do
      let (negative, body) := Text.splitSign cs
      let n : Int := Text.ofDigits 10 (← decimalDigits? body)
      inRange? (if negative then -n else n)

/-- The digits of an exponent behind its mark. -/
def exponentDigits? (cs : List Char) : Option (List Char) := do
  let (negative, body) := Text.splitSign cs
  let ds ← plainDigits? Char.isDigit body
  return if negative then '-' :: ds else ds

/-- Digits with at most one point among them, without the underscores. -/
def pointedDigits? (cs : List Char) : Option (List Char) :=
  let whole := cs.takeWhile (· != '.')
  match decimalDigits? whole, cs.drop whole.length with
  | none, _ => none
  | some ds, [] => some ds
  | some ds, _ :: fraction => (plainDigits? Char.isDigit fraction).map fun fs => ds ++ '.' :: fs

/-- A fraction without its sign, in plain digits. -/
def plainFraction? (cs : List Char) : Option (List Char) :=
  let mantissa := cs.takeWhile (!Text.isExponentMark ·)
  match pointedDigits? mantissa, cs.drop mantissa.length with
  | none, _ => none
  | some ds, [] => if ds.contains '.' then some ds else none
  | some ds, _ :: exponent => (exponentDigits? exponent).map fun es => ds ++ 'e' :: es

/-- A fraction. One that is too large is refused, but only above zero. -/
def fractionOf? (cs : List Char) : Option Binary64.Datum :=
  let (negative, body) := Text.splitSign cs
  if body = ['i', 'n', 'f'] then some (.infinite negative)
  else if body = ['n', 'a', 'n'] then some .undefined
  else do
    let x ← Binary64.readNumeral? negative (← plainFraction? body)
    if x = .infinite false then none else some x

/-- The number of exactly two digits, if it is one of a range. -/
def readTwo (low high : Nat) : Reader Nat := fun cs => do
  let (n, rest) ← Instant.readTwoDigits cs
  if low ≤ n ∧ n ≤ high then some (n, rest) else none

/-- Reads one character. -/
def readChar (c : Char) : List Char → Option (List Char)
  | d :: rest => if c = d then some rest else none
  | [] => none

/-- Reads a date: a year of four digits, a month and a day that it has. -/
def readDate : Reader Unit := fun cs => do
  let year := cs.take 4
  if year.length = 4 && year.all Char.isDigit then
    let rest ← readChar '-' (cs.drop 4)
    let (month, rest) ← readTwo 1 12 rest
    let rest ← readChar '-' rest
    let (_, rest) ← readTwo 1 (Calendar.daysInMonth (Nat.ofDigitChars 10 year 0) month) rest
    return ((), rest)
  else none

/-- Reads the fraction of a second, if there is a point. -/
def readSecondFraction : Reader Unit
  | '.' :: cs =>
      let ds := cs.takeWhile Char.isDigit
      if ds.isEmpty then none else some ((), cs.drop ds.length)
  | cs => some ((), cs)

/-- Reads a time of day. -/
def readTime : Reader Unit := fun cs => do
  let (_, rest) ← readTwo 0 23 cs
  let (_, rest) ← readTwo 0 59 (← readChar ':' rest)
  let (_, rest) ← readTwo 0 60 (← readChar ':' rest)
  readSecondFraction rest

/-- The text is an offset from universal time, or nothing. -/
def isOffset : List Char → Bool
  | [] => true
  | ['Z'] => true
  | ['z'] => true
  | c :: cs =>
      (c == '+' || c == '-') &&
        (do
          let (_, rest) ← readTwo 0 23 cs
          let (_, rest) ← readTwo 0 59 (← readChar ':' rest)
          return rest.isEmpty).getD false

/-- The text is a date, a time, or both, with an offset at most when it is both. -/
def isMoment (cs : List Char) : Bool :=
  match readDate cs with
  | some (_, []) => true
  | some (_, mark :: rest) =>
      (mark == 'T' || mark == 't' || mark == ' ') &&
        match readTime rest with
        | some (_, offset) => isOffset offset
        | none => false
  | none => match readTime cs with
    | some (_, rest) => rest.isEmpty
    | none => false

/-- The character may be part of a number, a name, a date or a time. -/
def isScalarChar (c : Char) : Bool :=
  c.isAlphanum || c == '_' || c == '+' || c == '-' || c == '.' || c == ':'

/-- The value of some characters. -/
def scalarOf? (cs : List Char) : Option Value :=
  if cs = "true".toList then some (.bool true)
  else if cs = "false".toList then some (.bool false)
  else if isMoment cs then some .moment
  else ((integerOf? cs).map Value.integer).or ((fractionOf? cs).map Value.fraction)

/-- The text goes on with a blank and an hour, as between a date and a time. -/
def timeFollows : List Char → Bool
  | ' ' :: a :: b :: ':' :: _ => a.isDigit && b.isDigit
  | _ => false

/-- Reads a value without quotes and brackets. A blank may stand between a date and a time. -/
def readScalar : Reader Value := fun cs =>
  let first := cs.takeWhile isScalarChar
  let rest := cs.drop first.length
  let run := if isMoment first && timeFollows rest then
      first ++ ' ' :: rest.tail.takeWhile isScalarChar
    else first
  (scalarOf? run).map (·, cs.drop run.length)

end Toml

end BankLedger
