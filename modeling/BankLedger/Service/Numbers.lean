import BankLedger.Service.Program

/-!
# Sources of account numbers

Account numbers are drawn one after the other. They may come from a list made beforehand, be counted
up, or look random. Whether a number is free is not the source's concern: the store finds out, and
another one is drawn.

## Main definitions

* `NumberSource.listed`: The numbers of a list.
* `NumberSource.counted`: The numbers from one on.
* `NumberSource.scattered`: Numbers that look random, the same ones for the same seed.
-/

namespace BankLedger

namespace NumberSource

/-- The ten digits of a number. -/
def tenDigits (n : Nat) : List Nat :=
  (Text.fixedDigits 10 AccountNumber.digitCount n).map Text.digitValue

/-- The numbers of a list, in its order. A text that is no account number counts as a draw. -/
def listed (texts : List String) : NumberSource := fun k =>
  match texts[k]? with
  | some s => AccountNumber.parse s
  | none => .error (.invalidArgument (.other "no scripted numbers left"))

/-- The numbers from one on. -/
def counted : NumberSource := fun k => AccountNumber.ofDigits (tenDigits (k + 1))

/-- One round of mixing: a multiplication spreads low bits upwards, a shift brings high bits
    down. -/
def mixRound (shift factor x : UInt64) : UInt64 := (x ^^^ (x >>> shift)) * factor

/-- A number in which every bit hangs on every bit of the given one. -/
def mix (x : UInt64) : UInt64 :=
  mixRound 31 1 (mixRound 27 0x94D049BB133111EB (mixRound 30 0xBF58476D1CE4E5B9 x))

/-- The mixed number of a count. -/
def mixed (seed : UInt64) (count : Nat) : UInt64 :=
  mix (seed + UInt64.ofNat count * 0x9E3779B97F4A7C15)

/-- Numbers that look random: each digit comes from a mixed count of its own. -/
def scattered (seed : UInt64) : NumberSource := fun k =>
  AccountNumber.ofDigits <| (List.range AccountNumber.digitCount).map fun i =>
    (mixed seed (k * AccountNumber.digitCount + i + 1)).toNat % 10

end NumberSource

end BankLedger
