import BankLedger.Account.Basic
import BankLedger.Proofs.Attempt

/-!
# What an Account Operation Does

One statement for each operation of an account: when it succeeds, and what the account is like
afterwards. A refused operation gives no account, so there is nothing to say about it except why it
was refused.

## Theorems

* `ensureActive_eq_ok_iff`: Money moves on active accounts only.
* `applyDelta_eq_ok_iff`: Money moves when both sums are in range and the balance stays above zero.
* `reserve_eq_ok_iff`: Money is set aside when there is as much available.
* `restore_eq_ok_iff`: Money is given back when the sum is in range.
* `transition_eq_ok_iff`: Which action leads from which status to which.
* `apply_eq_ok_iff`: An action succeeds when it leads to a status.
* `amend_eq_ok_iff`: Status and rate are set unless the account is closed or would be.
-/

namespace BankLedger

namespace Account

open Attempt

theorem inRange_eq_ok_iff (a : Account) (sum : Option Decimal) (x : Decimal) :
    a.inRange sum = .ok x ↔ sum = some x := by
  cases sum with
  | none => simp only [inRange, reduceCtorEq]
  | some y => simp only [inRange, Except.ok.injEq, Option.some.injEq]

/-- Money moves on active accounts only. -/
theorem ensureActive_eq_ok_iff (a : Account) : a.ensureActive = .ok () ↔ a.status = .active := by
  unfold ensureActive
  split
  · next h => simp only [h]
  · next h => simp only [reduceCtorEq, h]

/-- Money moves when both sums are in range and the balance does not fall below zero. -/
theorem applyDelta_eq_ok_iff (a b : Account) (delta : Decimal) (now : Instant) :
    a.applyDelta delta now = .ok b ↔ ∃ balance available, a.balance.add? delta = some balance ∧
      balance.isNegative = false ∧ a.available.add? delta = some available ∧
      { a with balance := balance, available := available, updatedAt := now } = b := by
  unfold applyDelta
  rw [bind_eq_ok_iff]
  simp only [inRange_eq_ok_iff]
  refine exists_congr fun balance => ?_
  cases hnegative : balance.isNegative with
  | false =>
      simp only [Bool.false_eq_true, if_false, bind_eq_ok_iff, inRange_eq_ok_iff, pure_eq,
        Except.ok.injEq, true_and, exists_and_left]
  | true =>
      simp only [if_true, throw_eq, error_bind, reduceCtorEq, false_and, and_false, exists_false]

/-- Money is set aside when there is as much available. -/
theorem reserve_eq_ok_iff (a b : Account) (amount : Amount) (now : Instant) :
    a.reserve amount now = .ok b ↔ a.available.lt amount.value = false ∧
      ∃ available, a.available.sub? amount.value = some available ∧
        { a with available := available, updatedAt := now } = b := by
  unfold reserve
  cases hlt : a.available.lt amount.value with
  | false =>
      simp only [Bool.false_eq_true, if_false, bind_eq_ok_iff, inRange_eq_ok_iff, pure_eq,
        Except.ok.injEq, true_and]
  | true => simp only [if_true, throw_eq, error_bind, reduceCtorEq, false_and]

/-- Money is given back when the sum is in range. -/
theorem restore_eq_ok_iff (a b : Account) (amount : Amount) (now : Instant) :
    a.restore amount now = .ok b ↔ ∃ available, a.available.add? amount.value = some available ∧
      { a with available := available, updatedAt := now } = b := by
  unfold restore
  simp only [bind_eq_ok_iff, inRange_eq_ok_iff, pure_eq, Except.ok.injEq]

/-- Which action leads from which status to which. Closing needs a balance of zero. -/
theorem transition_eq_ok_iff (a : Account) (action : Action) (status : Status) :
    a.transition action = .ok status ↔ match action with
      | .freeze => a.status = .active ∧ status = .frozen
      | .unfreeze => a.status = .frozen ∧ status = .active
      | .close => (a.status = .active ∨ a.status = .frozen) ∧ a.balance.isZero = true ∧
          status = .closed := by
  unfold transition
  cases action with
  | freeze => cases a.status <;> simp [eq_comm]
  | unfreeze => cases a.status <;> simp [eq_comm]
  | close => cases a.status <;> cases a.balance.isZero <;> simp [eq_comm]

/-- An action succeeds when it leads to a status, and closing sets the time once. -/
theorem apply_eq_ok_iff (a b : Account) (action : Action) (now : Instant) :
    a.apply action now = .ok b ↔ ∃ status, a.transition action = .ok status ∧
      { a with
        status := status
        closedAt := if status = .closed then some (a.closedAt.getD now) else a.closedAt
        updatedAt := now } = b := by
  unfold apply
  simp only [bind_eq_ok_iff, pure_eq, Except.ok.injEq]

/-- Status and rate are set, unless the account is closed or would be closed by it. -/
theorem amend_eq_ok_iff (a b : Account) (status : Option Status) (rate : Option Decimal)
    (now : Instant) :
    a.amend status rate now = .ok b ↔ a.status ≠ .closed ∧ status ≠ some .closed ∧
      { a with
        status := status.getD a.status
        rate := rate.getD a.rate
        updatedAt := now } = b := by
  unfold amend
  rw [check_eq_ok_iff, check_eq_ok_iff, Except.ok.injEq]

end Account

end BankLedger
