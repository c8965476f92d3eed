import BankLedger.Binary64.Basic

/-!
# The shortest decimal of a binary fraction

Many decimals are nearest to the same binary fraction. The one that is written has the fewest
significant digits, and of those with that many digits it is the closest to the fraction itself. If
two are equally close, the form decides: the plain form takes the one further from zero, the numeral
the one with the even last digit.

The decimals that lead back to a fraction form an interval: up to halfway to its neighbours, the
halfway points included when the significand is even, because a half goes to the even one. On the
grid of decimals with a given number of digits, if any point lies in the interval then one of the
two points next to the fraction does, so only those two are looked at.

## Main definitions

* `Binary64.Tie`: Which of two decimals that are equally close is taken.
* `Binary64.shortest`: The digits, and the power of ten they are counted in.
* `Binary64.toPlainChars`: The shortest decimal without an exponent.
* `Binary64.toNumeral`: The shortest decimal, with an exponent where the plain form would be long.
-/

namespace BankLedger

namespace Binary64

/-- The ends of the interval that leads back to a positive fraction, and the fraction itself, all
    counted in quarters of the unit of its significand: `(low, middle, high)`. Below a power of two
    the neighbour is only half as far away. -/
def quarters (x : Binary64) : Nat × Nat × Nat :=
  let m := 4 * x.significand
  let down := if x.significand = leadingBit && minExponent < x.exponent then 1 else 2
  (m - down, m, m + 2)

/-- The quarter unit as a ratio. -/
def quarterUnit (x : Binary64) : Nat × Nat :=
  let e := x.exponent - 2
  if e < 0 then (1, 1 <<< e.natAbs) else (1 <<< e.natAbs, 1)

/-- A power of ten as a ratio. -/
def powerOfTen (k : Int) : Nat × Nat :=
  if k < 0 then (1, Nat.pow 10 k.natAbs) else (Nat.pow 10 k.natAbs, 1)

/-- The power of ten of the first significant digit of a positive ratio. -/
def leadingPower (n d : Nat) : Int :=
  if d ≤ n then ((Nat.toDigits 10 (n / d)).length : Int) - 1
  else
    let k := (Nat.toDigits 10 (d / n)).length
    if n * Nat.pow 10 (k - 1) = d then -((k - 1 : Nat) : Int) else -(k : Int)

/-- One grid of decimals seen from a positive fraction: the grid point below the fraction, what is
    left over, the size of a grid step, and the ends of the interval, all in a common unit. -/
structure Grid where
  /-- The number of grid steps below the fraction. -/
  below : Nat
  /-- The fraction in the common unit. -/
  middle : Nat
  /-- A grid step in the common unit. -/
  step : Nat
  /-- The lower end of the interval. -/
  low : Nat
  /-- The upper end of the interval. -/
  high : Nat
  /-- The ends belong to the interval. -/
  closed : Bool

/-- The grid of multiples of `10 ^ k`. -/
def grid (x : Binary64) (k : Int) : Grid :=
  let (low, middle, high) := x.quarters
  let (un, ud) := x.quarterUnit
  let (pn, pd) := powerOfTen k
  let step := pn * ud
  let unit := un * pd
  ⟨middle * unit / step, middle * unit, step, low * unit, high * unit, x.significand % 2 == 0⟩

/-- The grid point lies in the interval. -/
def Grid.holds (g : Grid) (point : Nat) : Bool :=
  if g.closed then g.low ≤ point * g.step && point * g.step ≤ g.high
  else g.low < point * g.step && point * g.step < g.high

/-- Which of two grid points that are equally near is taken. -/
inductive Tie where
  /-- The one further from zero. -/
  | away
  /-- The even one. -/
  | even
deriving DecidableEq

/-- Of two neighbours that are equally near, the one that is taken. -/
def Tie.choose (below : Nat) : Tie → Nat
  | .away => below + 1
  | .even => if below % 2 = 0 then below else below + 1

/-- The nearer of the two grid points next to the fraction that lie in the interval. -/
def Grid.nearest? (tie : Tie) (g : Grid) : Option Nat :=
  let above := g.below + 1
  match g.holds g.below, g.holds above with
  | true, false => some g.below
  | false, true => some above
  | false, false => none
  | true, true =>
      let twice := 2 * (g.middle - g.below * g.step)
      some (if twice < g.step then g.below else if g.step < twice then above else
        tie.choose g.below)

/-- The first grid with a hit: `digits` significant digits, or one more, up to `fuel` more. -/
def search (tie : Tie) (x : Binary64) (lead : Int) (digits : Nat) : (fuel : Nat) → Nat × Int
  | 0 => (0, 0)
  | fuel + 1 =>
      let k := lead - (digits : Int) + 1
      match (x.grid k).nearest? tie with
      | some n => (n, k)
      | none => search tie x lead (digits + 1) fuel

/-- The shortest decimal of a fraction without its sign: digits, and the power of ten they are
    counted in. Seventeen digits always suffice. -/
def shortest (tie : Tie) (x : Binary64) : Nat × Int :=
  if x.significand = 0 then (0, 0)
  else
    let (n, d) := x.ratio
    let (digits, k) := search tie x (leadingPower n d) 1 18
    if digits % 10 = 0 then (digits / 10, k + 1) else (digits, k)

/-- Digits counted in a power of ten, without an exponent and without a needless point. -/
def positional (digits : Nat) (k : Int) : List Char :=
  let ds := Nat.toDigits 10 digits
  if 0 ≤ k then
    if digits = 0 then ds else ds ++ List.replicate k.toNat '0'
  else
    let behind := k.natAbs
    let padded := List.replicate (behind + 1 - ds.length) '0' ++ ds
    padded.take (padded.length - behind) ++ '.' :: padded.drop (padded.length - behind)

/-- The shortest decimal without an exponent, however long it gets. -/
def toPlainChars (x : Binary64) : List Char :=
  let (digits, k) := x.shortest .away
  (if x.negative then ['-'] else []) ++ positional digits k

/-- An exponent with its sign. -/
def exponentChars (e : Int) : List Char :=
  (if e < 0 then '-' else '+') :: Nat.toDigits 10 e.natAbs

/-- The shortest decimal as a numeral that always shows it is a fraction: without an exponent, and
    with a point, from `10 ^ (-5)` up to below `10 ^ 16`, else with one digit before the point and
    an exponent. -/
def toNumeral (x : Binary64) : List Char :=
  let (digits, k) := x.shortest .even
  let ds := Nat.toDigits 10 digits
  let lead := k + (ds.length : Int) - 1
  let sign := if x.negative then ['-'] else []
  if digits = 0 || (-5 ≤ lead && lead < 16) then
    sign ++ positional digits k ++ (if 0 ≤ k then ['.', '0'] else [])
  else
    sign ++ ds.take 1 ++ (if ds.length = 1 then [] else '.' :: ds.drop 1) ++
      'e' :: exponentChars lead

end Binary64

end BankLedger
