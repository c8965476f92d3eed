import BankLedger.Proofs.Account.Posting
import BankLedger.Proofs.Decimal.Direction

/-!
# Guards and Rounding

The operations on an account look at sums that may have been rounded. An amount is refused for lack
of funds when the rounded sum is below zero, and a balance is written as the rounded sum says. Since
rounding keeps the sign of a sum and does not cross its sides, this is as good as looking at the
exact sums: just those amounts are refused that are larger than what is there, what is taken out
leaves something between zero and what was there, and no balance moves in the wrong direction.

Nothing is asked of the scales, so this holds also of balances that fill the coefficient to its last
bit, where every sum is rounded.

## Main definitions

* `Account.KeepsCourse`: The guards and the directions of the operations, for one amount.

## Theorems

* `debit_cases`: What comes of taking an amount out.
* `debit_insufficient_iff`, `reserve_eq_error_iff`: What is refused for lack of funds.
* `available_le_of_reserve`, `le_available_of_restore`: The direction of what is available.
* `debit_written`, `reserve_written`, `credit_written`, `restore_written`: Where balances move.
* `keepsCourse`: Rounding changes neither the guards nor the directions.
-/

namespace BankLedger

namespace Account

open Decimal

/-- A sum is in range when it is no farther from zero than some decimal. -/
theorem exists_add?_of_abs_le {x y z : Decimal} (h : |x.toRat + y.toRat| ≤ |z.toRat|) :
    ∃ r, x.add? y = some r := by
  rcases hsum : x.add? y with _ | r
  · exact absurd (((add?_eq_none_iff x y).mp hsum).trans h) (not_outOfRange_toRat z)
  · exact ⟨r, rfl⟩

variable (a : Account) {amount : Amount} (now : Instant)

/-- What is taken out is never so much that the balance would be out of range. -/
theorem exists_debited (hbalance : 0 ≤ a.balance.toRat) (hamount : 0 < amount.value.toRat) :
    ∃ balance, a.balance.add? (-amount.value) = some balance := by
  rcases le_total amount.value.toRat a.balance.toRat with hle | hle
  · refine exists_add?_of_abs_le (z := a.balance) ?_
    rw [toRat_neg, abs_of_nonneg (by linarith), abs_of_nonneg hbalance]
    linarith
  · refine exists_add?_of_abs_le (z := amount.value) ?_
    rw [toRat_neg, abs_of_nonpos (by linarith), abs_of_pos hamount]
    linarith

/-- An amount is taken out when it is on the account and there is room for what is available then;
    when it is not on the account the funds are insufficient, and only then. -/
theorem debit_cases (hbalance : 0 ≤ a.balance.toRat) (hamount : 0 < amount.value.toRat) :
    (a.balance.toRat < amount.value.toRat ∧
      a.applyDelta (-amount.value) now = .error (.insufficientFunds a.id)) ∨
    amount.value.toRat ≤ a.balance.toRat ∧ ∃ balance,
      a.balance.add? (-amount.value) = some balance ∧ 0 ≤ balance.toRat ∧
      ((a.available.add? (-amount.value) = none ∧
          a.applyDelta (-amount.value) now = .error a.overflow) ∨
        ∃ available, a.available.add? (-amount.value) = some available ∧
          a.applyDelta (-amount.value) now =
            .ok { a with balance := balance, available := available, updatedAt := now }) := by
  rcases a.exists_debited hbalance hamount with ⟨balance, hsum⟩
  have hsign := add?_nonneg_iff hsum
  rw [toRat_neg, ← sub_eq_add_neg, sub_nonneg] at hsign
  unfold applyDelta
  rw [hsum]
  rcases le_or_gt amount.value.toRat a.balance.toRat with hle | hlt
  · right
    have hnonneg := hsign.mpr hle
    refine ⟨hle, balance, rfl, hnonneg, ?_⟩
    rw [inRange, Attempt.ok_bind, (not_isNegative_iff balance).mpr hnonneg]
    rcases a.available.add? (-amount.value) with _ | available
    · exact Or.inl ⟨rfl, rfl⟩
    · exact Or.inr ⟨available, rfl, rfl⟩
  · left
    have hnegative : balance.isNegative = true := by
      rw [isNegative_iff, ← not_le, hsign, not_le]
      exact hlt
    refine ⟨hlt, ?_⟩
    rw [inRange, Attempt.ok_bind, hnegative]
    rfl

/-- Funds are insufficient for a debit when more is taken out than is on the account. -/
theorem debit_insufficient_iff (hbalance : 0 ≤ a.balance.toRat)
    (hamount : 0 < amount.value.toRat) :
    a.applyDelta (-amount.value) now = .error (.insufficientFunds a.id) ↔
      a.balance.toRat < amount.value.toRat := by
  rcases a.debit_cases now hbalance hamount with ⟨hlt, hrun⟩ | ⟨hle, _, _, _, hrest⟩
  · simp only [hrun, hlt]
  · rcases hrest with ⟨_, hrun⟩ | ⟨_, _, hrun⟩
    · simp only [hrun, not_lt.mpr hle, overflow, Except.error.injEq, reduceCtorEq]
    · simp only [hrun, not_lt.mpr hle, reduceCtorEq]

/-- A debit is out of range when what would be available is. -/
theorem debit_overflow_iff (hbalance : 0 ≤ a.balance.toRat) (hamount : 0 < amount.value.toRat) :
    a.applyDelta (-amount.value) now = .error a.overflow ↔
      amount.value.toRat ≤ a.balance.toRat ∧ a.available.add? (-amount.value) = none := by
  rcases a.debit_cases now hbalance hamount with ⟨hlt, hrun⟩ | ⟨hle, _, _, _, hrest⟩
  · simp only [hrun, not_le.mpr hlt, overflow, Except.error.injEq, reduceCtorEq, false_and]
  · rcases hrest with ⟨hnone, hrun⟩ | ⟨_, hsum, hrun⟩
    · simp only [hrun, hle, hnone, and_self]
    · simp only [hrun, hsum, reduceCtorEq, and_false]

/-- Funds are insufficient for a hold when it is larger than what is available, and nothing else is
    in its way. -/
theorem reserve_eq_error_iff (hamount : 0 < amount.value.toRat) (e : LedgerError) :
    a.reserve amount now = .error e ↔
      e = .insufficientFunds a.id ∧ a.available.toRat < amount.value.toRat := by
  rcases a.reserve_cases hamount now with ⟨hlt, hrun⟩ | ⟨_, hle, _, hrun⟩
  · simp only [hrun, Except.error.injEq, hlt, and_true, eq_comm]
  · simp only [hrun, reduceCtorEq, not_lt.mpr hle, and_false]

variable {a now} {b : Account}

/-- A debit lowers both balances, and leaves something on the account. -/
theorem debit_written (hamount : 0 < amount.value.toRat)
    (h : a.applyDelta (-amount.value) now = .ok b) :
    (0 ≤ b.balance.toRat ∧ b.balance.toRat ≤ a.balance.toRat) ∧
      b.available.toRat ≤ a.available.toRat := by
  have hneg : (-amount.value).toRat ≤ 0 := by
    rw [toRat_neg]
    linarith
  rcases (applyDelta_eq_ok_iff _ _ _ _).mp h with
    ⟨balance, available, hbalance, hsign, havailable, rfl⟩
  exact ⟨⟨(not_isNegative_iff balance).mp hsign, add?_le_of_nonpos hbalance hneg⟩,
    add?_le_of_nonpos havailable hneg⟩

/-- What is set aside does not raise what is available, unless it is below zero. -/
theorem available_le_of_reserve (hamount : 0 ≤ amount.value.toRat)
    (h : a.reserve amount now = .ok b) : b.available.toRat ≤ a.available.toRat := by
  have hneg : (-amount.value).toRat ≤ 0 := by
    rw [toRat_neg]
    linarith
  rcases (reserve_eq_ok_iff _ _ _ _).mp h with ⟨_, _, havailable, rfl⟩
  exact add?_le_of_nonpos havailable hneg

/-- What is given back does not lower what is available, unless it is below zero. -/
theorem le_available_of_restore (hamount : 0 ≤ amount.value.toRat)
    (h : a.restore amount now = .ok b) : a.available.toRat ≤ b.available.toRat := by
  rcases (restore_eq_ok_iff _ _ _ _).mp h with ⟨_, havailable, rfl⟩
  exact le_add?_of_nonneg havailable hamount

/-- A hold lowers what is available, and leaves something of it. -/
theorem reserve_written (hamount : 0 < amount.value.toRat) (h : a.reserve amount now = .ok b) :
    0 ≤ b.available.toRat ∧ b.available.toRat ≤ a.available.toRat := by
  refine ⟨?_, available_le_of_reserve hamount.le h⟩
  rcases a.reserve_cases hamount now with ⟨_, hrun⟩ | ⟨available, hle, hsum, hrun⟩
  · cases h.symm.trans hrun
  · cases h.symm.trans hrun
    refine (add?_nonneg_iff hsum).mpr ?_
    rw [toRat_neg]
    linarith

/-- A credit raises both balances. -/
theorem credit_written (hamount : 0 < amount.value.toRat)
    (h : a.applyDelta amount.value now = .ok b) :
    a.balance.toRat ≤ b.balance.toRat ∧ a.available.toRat ≤ b.available.toRat := by
  rcases (applyDelta_eq_ok_iff _ _ _ _).mp h with ⟨_, _, hbalance, _, havailable, rfl⟩
  exact ⟨le_add?_of_nonneg hbalance hamount.le, le_add?_of_nonneg havailable hamount.le⟩

/-- What is given back raises what is available. -/
theorem restore_written (hamount : 0 < amount.value.toRat) (h : a.restore amount now = .ok b) :
    a.available.toRat ≤ b.available.toRat :=
  le_available_of_restore hamount.le h

/-- The guards of the operations on an account, and the directions in which its balances move, for
    one amount. -/
structure KeepsCourse (a : Account) (amount : Amount) (now : Instant) : Prop where
  /-- Funds are insufficient for a debit when the amount is larger than the balance. -/
  debit_insufficient : a.applyDelta (-amount.value) now = .error (.insufficientFunds a.id) ↔
    a.balance.toRat < amount.value.toRat
  /-- The balance of a debit is in range, whether there are funds or not. -/
  debit_balance : ∃ balance, a.balance.add? (-amount.value) = some balance
  /-- So a debit is out of range only when what would be available is. -/
  debit_overflow : a.applyDelta (-amount.value) now = .error a.overflow ↔
    amount.value.toRat ≤ a.balance.toRat ∧ a.available.add? (-amount.value) = none
  debit_written : ∀ b, a.applyDelta (-amount.value) now = .ok b →
    (0 ≤ b.balance.toRat ∧ b.balance.toRat ≤ a.balance.toRat) ∧
      b.available.toRat ≤ a.available.toRat
  /-- Funds are insufficient for a hold when the amount is larger than what is available, and
      nothing else is in its way. -/
  reserve_refused : ∀ e, a.reserve amount now = .error e ↔
    e = .insufficientFunds a.id ∧ a.available.toRat < amount.value.toRat
  reserve_written : ∀ b, a.reserve amount now = .ok b →
    0 ≤ b.available.toRat ∧ b.available.toRat ≤ a.available.toRat
  credit_written : ∀ b, a.applyDelta amount.value now = .ok b →
    a.balance.toRat ≤ b.balance.toRat ∧ a.available.toRat ≤ b.available.toRat
  restore_written : ∀ b, a.restore amount now = .ok b → a.available.toRat ≤ b.available.toRat

/-- Rounding changes neither what is refused for lack of funds nor the direction of a balance. -/
theorem keepsCourse (a : Account) (amount : Amount) (now : Instant)
    (hbalance : 0 ≤ a.balance.toRat) (hamount : 0 < amount.value.toRat) :
    a.KeepsCourse amount now where
  debit_insufficient := a.debit_insufficient_iff now hbalance hamount
  debit_balance := a.exists_debited hbalance hamount
  debit_overflow := a.debit_overflow_iff now hbalance hamount
  debit_written _ h := Account.debit_written hamount h
  reserve_refused := a.reserve_eq_error_iff now hamount
  reserve_written _ h := Account.reserve_written hamount h
  credit_written _ h := Account.credit_written hamount h
  restore_written _ h := Account.restore_written hamount h

/-- An account that is full to the last bit: no tenth can be written behind its balance, and no
    further unit with what is available of it. -/
def brimful : Account :=
  { start default default .checking "EUR" ⟨"55-0000-0029", by decide⟩ .zero .epoch with
    balance := .max
    available := .ofUnits (-79228162514264337593543950335) 1 }

/-- Three tenths of a unit. -/
def threeTenths : Amount := ⟨.ofUnits 3 1⟩

/-- Three tenths are lost when they are taken from the balance, and count for more than they are
    when they are taken from what is available. -/
theorem brimful_keepsCourse : 0 ≤ brimful.balance.toRat ∧ 0 < threeTenths.value.toRat ∧
    brimful.KeepsCourse threeTenths .epoch ∧
    ∃ b, brimful.applyDelta (-threeTenths.value) .epoch = .ok b ∧
      b.balance = .max ∧ b.available = .ofUnits (-7922816251426433759354395034) 0 := by
  have hbalance : 0 ≤ brimful.balance.toRat := by decide +kernel
  have hamount : 0 < threeTenths.value.toRat := by decide +kernel
  exact ⟨hbalance, hamount, keepsCourse brimful threeTenths .epoch hbalance hamount, _, rfl,
    by decide +kernel, by decide +kernel⟩

end Account

end BankLedger
