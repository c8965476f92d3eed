import BankLedger.Text.Blank
import BankLedger.Text.Digits

/-!
# Instants

A point in time of the coordinated universal time, to the nanosecond. It is counted in seconds from
the start of 1970 and nanoseconds within the second. A leap second has no count of its own: it is
the second before it, with a billion nanoseconds or more.

Instants are written in the form of RFC 3339 with a `Z`, and as many fraction digits as are needed:
none, three, six or nine. Reading takes any offset from universal time, any number of fraction
digits, of which those after the ninth are ignored, blanks between the parts, and numbers with
leading zeros left out.

## Main definitions

* `Instant`: A point in time.
* `Instant.toText`: The written form.
* `Instant.ofText?`: Reads an instant.
* `Calendar.dayNumber`, `Calendar.ofDayNumber`: Dates and days since 1970.
-/

namespace BankLedger

namespace Calendar

/-- A year of 366 days. The Gregorian rule is used for all years. -/
def isLeap (year : Int) : Bool :=
  decide (year % 4 = 0) && (decide (year % 100 ≠ 0) || decide (year % 400 = 0))

/-- The number of days of a month. -/
def daysInMonth (year : Int) (month : Nat) : Nat :=
  if month = 2 then (if isLeap year then 29 else 28)
  else if month = 4 || month = 6 || month = 9 || month = 11 then 30
  else 31

/-- The day counted from the start of 1970. Years begin in March here, so that the leap day is the
    last day of its year, and 400 years make a cycle of 146097 days. -/
def dayNumber (year : Int) (month day : Nat) : Int :=
  let y := if month ≤ 2 then year - 1 else year
  let m : Int := (month + 9) % 12
  let cycle := y / 400
  let yearOfCycle := y % 400
  let dayOfYear := (153 * m + 2) / 5 + day - 1
  cycle * 146097 + yearOfCycle * 365 + yearOfCycle / 4 - yearOfCycle / 100 + dayOfYear - 719468

/-- The date of a day counted from the start of 1970: year, month and day. -/
def ofDayNumber (n : Int) : Int × Nat × Nat :=
  let z := n + 719468
  let cycle := z / 146097
  let d := z % 146097
  let yearOfCycle := (d - d / 1460 + d / 36524 - d / 146096) / 365
  let dayOfYear := d - (365 * yearOfCycle + yearOfCycle / 4 - yearOfCycle / 100)
  let m := (5 * dayOfYear + 2) / 153
  let day := dayOfYear - (153 * m + 2) / 5 + 1
  let month := if m < 10 then m + 3 else m - 9
  let year := yearOfCycle + cycle * 400
  (if month ≤ 2 then year + 1 else year, month.toNat, day.toNat)

end Calendar

/-- A point in time. -/
structure Instant where
  /-- Whole seconds since the start of 1970. -/
  seconds : Int
  /-- Nanoseconds within the second; from a billion on, within the leap second after it. -/
  nanos : Nat
deriving DecidableEq

namespace Instant

/-- A billion nanoseconds. -/
def nanosPerSecond : Nat := 1000000000

/-- The start of 1970. -/
def epoch : Instant := ⟨0, 0⟩

instance : Inhabited Instant := ⟨epoch⟩

/-- Earlier instants come first. -/
def compare (a b : Instant) : Ordering :=
  (Ord.compare a.seconds b.seconds).then (Ord.compare a.nanos b.nanos)

/-- Strictly earlier. -/
def before (a b : Instant) : Bool := a.compare b == .lt

/-- The instant one nanosecond later. -/
def next (a : Instant) : Instant :=
  if a.nanos + 1 < nanosPerSecond then ⟨a.seconds, a.nanos + 1⟩ else ⟨a.seconds + 1, 0⟩

/-- Whole milliseconds since the start of 1970, none before it. -/
def milliseconds (a : Instant) : Nat := (a.seconds * 1000 + (a.nanos / 1000000 : Nat)).toNat

/-- A year: four digits, or a sign and at least four digits when it has no four. -/
def yearChars (year : Int) : List Char :=
  if 0 ≤ year && year ≤ 9999 then Text.fixedDigits 10 4 year.toNat
  else
    let ds := Nat.toDigits 10 year.natAbs
    (if year < 0 then '-' else '+') :: (List.replicate (4 - ds.length) '0' ++ ds)

/-- The fraction of a second: nothing, or a point and three, six or nine digits. -/
def fractionChars (nanos : Nat) : List Char :=
  if nanos = 0 then []
  else if nanos % 1000000 = 0 then '.' :: Text.fixedDigits 10 3 (nanos / 1000000)
  else if nanos % 1000 = 0 then '.' :: Text.fixedDigits 10 6 (nanos / 1000)
  else '.' :: Text.fixedDigits 10 9 nanos

/-- A number below a hundred, with two digits. -/
def twoDigits (n : Nat) : List Char := Text.fixedDigits 10 2 n

/-- The time of day: hours, minutes, seconds and fraction. -/
def timeChars (secondOfDay nanos : Nat) : List Char :=
  let leap := decide (nanosPerSecond ≤ nanos)
  twoDigits (secondOfDay / 3600) ++ ':' :: (twoDigits (secondOfDay / 60 % 60) ++
    ':' :: (twoDigits (secondOfDay % 60 + if leap then 1 else 0) ++
      fractionChars (if leap then nanos - nanosPerSecond else nanos)))

/-- The written form. -/
def toChars (a : Instant) : List Char :=
  let (year, month, day) := Calendar.ofDayNumber (a.seconds / 86400)
  yearChars year ++ '-' :: (twoDigits month ++ '-' :: (twoDigits day ++
    'T' :: (timeChars (a.seconds % 86400).toNat a.nanos ++ ['Z'])))

/-- The written form as a string. -/
def toText (a : Instant) : String := String.ofList a.toChars

/-- Reads one to `width` digits after any blanks. -/
def readNumber (width : Nat) (cs : List Char) : Option (Nat × List Char) :=
  let body := Text.trimStart cs
  let ds := (body.take width).takeWhile Char.isDigit
  if ds.isEmpty then none else some (Nat.ofDigitChars 10 ds 0, body.drop ds.length)

/-- Reads a year after any blanks: up to four digits, or a sign and any number of digits. -/
def readYear (cs : List Char) : Option (Int × List Char) :=
  let body := Text.trimStart cs
  match body with
  | '-' :: ds => signed (-1) ds
  | '+' :: ds => signed 1 ds
  | _ => (readNumber 4 body).map fun (n, rest) => ((n : Int), rest)
where
  /-- The digits after a sign, with no blank between. -/
  signed (sign : Int) (ds : List Char) : Option (Int × List Char) :=
    let run := ds.takeWhile Char.isDigit
    if run.isEmpty then none else some (sign * Nat.ofDigitChars 10 run 0, ds.drop run.length)

/-- Reads a separator after any blanks. -/
def readMark (c : Char) (cs : List Char) : Option (List Char) :=
  match Text.trimStart cs with
  | d :: rest => if d = c then some rest else none
  | [] => none

/-- Reads the fraction of a second, if there is a point: at least one digit, and nine count. -/
def readFraction : List Char → Option (Nat × List Char)
  | '.' :: cs =>
      let run := cs.takeWhile Char.isDigit
      if run.isEmpty then none
      else
        let kept := run.take 9
        some (Nat.ofDigitChars 10 kept 0 * Nat.pow 10 (9 - kept.length), cs.drop run.length)
  | cs => some (0, cs)

/-- Reads exactly two digits. -/
def readTwoDigits : List Char → Option (Nat × List Char)
  | a :: b :: rest =>
      if a.isDigit && b.isDigit then some (Nat.ofDigitChars 10 [a, b] 0, rest) else none
  | _ => none

/-- Reads hours and minutes of an offset; colons and blanks may stand between them. -/
def readOffsetTime (cs : List Char) : Option (Nat × List Char) := do
  let (hours, rest) ← readTwoDigits cs
  let (minutes, rest) ← readTwoDigits (rest.dropWhile fun c => c == ':' || Text.isBlank c)
  if hours < 24 ∧ minutes < 60 then some (hours * 3600 + minutes * 60, rest) else none

/-- Reads the offset from universal time, in seconds: the name `UTC` or the letter `Z` in either
    case, or a sign (which may be the mathematical minus) with hours and minutes. -/
def readOffset (cs : List Char) : Option (Int × List Char) :=
  if (cs.take 3).map Char.toUpper = ['U', 'T', 'C'] then some (0, cs.drop 3)
  else match cs with
  | 'Z' :: rest => some (0, rest)
  | 'z' :: rest => some (0, rest)
  | '+' :: rest => (readOffsetTime rest).map fun (n, rest) => ((n : Int), rest)
  | '-' :: rest => (readOffsetTime rest).map fun (n, rest) => (-(n : Int), rest)
  | '\u2212' :: rest => (readOffsetTime rest).map fun (n, rest) => (-(n : Int), rest)
  | _ => none

/-- A year that the calendar covers. -/
def isYear (year : Int) : Bool := decide (-262143 ≤ year) && decide (year ≤ 262142)

/-- The instant of a date, a time and an offset, if they exist. A sixtieth second is the leap second
    after the fifty-ninth. -/
def ofParts? (year : Int) (month day hour minute second nanos : Nat) (offset : Int) :
    Option Instant :=
  if isYear year && decide (1 ≤ month) && decide (month ≤ 12) && decide (1 ≤ day) &&
      decide (day ≤ Calendar.daysInMonth year month) && decide (hour < 24) &&
      decide (minute < 60) && decide (second ≤ 60) then
    let leap := decide (second = 60)
    let seconds := Calendar.dayNumber year month day * 86400 + (hour * 3600 + minute * 60 : Nat) +
      (if leap then 59 else second : Nat) - offset
    if isYear (Calendar.ofDayNumber (seconds / 86400)).1 then
      some ⟨seconds, if leap then nanos + nanosPerSecond else nanos⟩
    else none
  else none

/-- Reads an instant from characters. -/
def ofChars? (cs : List Char) : Option Instant := do
  let (year, rest) ← readYear cs
  let (month, rest) ← readNumber 2 (← readMark '-' rest)
  let (day, rest) ← readNumber 2 (← readMark '-' rest)
  let rest ← match rest with
    | 'T' :: rest => some rest
    | 't' :: rest => some rest
    | ' ' :: rest => some rest
    | _ => none
  let (hour, rest) ← readNumber 2 rest
  let (minute, rest) ← readNumber 2 (← readMark ':' rest)
  let (second, rest) ← readNumber 2 (← readMark ':' rest)
  let (nanos, rest) ← readFraction rest
  let (offset, rest) ← readOffset (Text.trimStart rest)
  if rest.all Text.isBlank then ofParts? year month day hour minute second nanos offset else none

/-- Reads an instant. -/
def ofText? (s : String) : Option Instant := ofChars? s.toList

end Instant

end BankLedger
