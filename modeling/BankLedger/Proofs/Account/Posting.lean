import BankLedger.Proofs.Account.Update
import BankLedger.Proofs.Decimal.Sum

/-!
# Postings

A posting adds one number to some of the balances of an account: a credit or a debit to both, a hold
and its release to the available one only. The three operations that post differ in what they look
at first, and agree in all the rest. So each of them has one of three outcomes. It is refused for a
reason of its own; or it is let through, but one of its sums is out of range; or it is let through
and writes its sums.

The reasons of its own are a matter of the exact sums: where an operation guards a balance, rounding
does not change what the guard says, because it keeps the sign of a sum.

## Main definitions

* `Posting`: A number that is added to some balances of an account.
* `Posting.sum`: What a balance would be if nothing had to be rounded.
* `Posting.Outcome`: What comes of a posting.

## Theorems

* `Amount.ofDecimal_eq_ok_iff`: An amount is above zero.
* `applyDelta_outcome`: Moving money guards the balance.
* `reserve_outcome`: Setting money aside guards what is available.
* `reserve_cases`: For a positive amount nothing else can be in the way.
* `restore_outcome`: Giving money back guards nothing.
-/

namespace BankLedger

/-- An amount has to be above zero. -/
theorem Amount.ofDecimal_eq_ok_iff (x : Decimal) (amount : Amount) :
    Amount.ofDecimal x = .ok amount ↔ 0 < x.toRat ∧ amount.value = x := by
  unfold ofDecimal
  rw [← Decimal.isPositive_iff]
  cases x.isPositive with
  | false => simp only [Bool.false_eq_true, if_false, reduceCtorEq, false_and]
  | true =>
      simp only [if_true, Except.ok.injEq, true_and]
      constructor
      · rintro rfl
        rfl
      · rintro rfl
        rfl

/-- A number that is added to some balances of an account. -/
structure Posting where
  /-- The account before. -/
  account : Account
  /-- What is added. -/
  amount : Decimal
  /-- The balances to which it is added. -/
  fields : List (Account → Decimal)

namespace Posting

open Decimal

/-- What a balance would be if nothing had to be rounded. -/
def sum (p : Posting) (field : Account → Decimal) : ℚ := (field p.account).toRat + p.amount.toRat

/-- The account has the sums of the posting, as far as there is room for their digits. -/
def WrittenIn (p : Posting) (b : Account) : Prop :=
  b.id = p.account.id ∧ ∀ field ∈ p.fields, (field p.account).add? p.amount = some (field b)

/-- One of the sums is out of range. -/
def Overflows (p : Posting) : Prop := ∃ field ∈ p.fields, OutOfRange (p.sum field)

/-- Money moves: both balances change. -/
def move (a : Account) (delta : Decimal) : Posting :=
  ⟨a, delta, [Account.balance, Account.available]⟩

/-- Money is set aside or given back: only what is available changes. -/
def aside (a : Account) (amount : Decimal) : Posting := ⟨a, amount, [Account.available]⟩

/-- What comes of a posting, given what lets it through. -/
inductive Outcome (p : Posting) (admitted : Prop) : Except LedgerError Account → Prop where
  /-- It is refused for a reason of its own. -/
  | refused (hadmitted : ¬ admitted) (e : LedgerError) : Outcome p admitted (.error e)
  /-- It is let through, but one of its sums is out of range. -/
  | overflowed (hadmitted : admitted) (hrange : p.Overflows) :
      Outcome p admitted (.error p.account.overflow)
  /-- It is let through and writes its sums. -/
  | written {b : Account} (hadmitted : admitted) (hrange : ¬ p.Overflows) (hb : p.WrittenIn b) :
      Outcome p admitted (.ok b)

theorem move_overflows_iff (a : Account) (delta : Decimal) :
    (move a delta).Overflows ↔ OutOfRange ((move a delta).sum Account.balance) ∨
      OutOfRange ((move a delta).sum Account.available) := by
  unfold Overflows
  simp only [move, List.mem_cons, List.not_mem_nil, or_false, exists_eq_or_imp, exists_eq_left]

theorem aside_overflows_iff (a : Account) (amount : Decimal) :
    (aside a amount).Overflows ↔ OutOfRange ((aside a amount).sum Account.available) := by
  unfold Overflows
  simp only [aside, List.mem_singleton, exists_eq_left]

end Posting

namespace Account

open Attempt Decimal

/-- A sum is in range or out of it, and the operations find out by adding. -/
theorem inRange_cases (a : Account) (x y : Decimal) :
    (OutOfRange (x.toRat + y.toRat) ∧ a.inRange (x.add? y) = .error a.overflow) ∨
      ∃ r, ¬ OutOfRange (x.toRat + y.toRat) ∧ x.add? y = some r ∧ a.inRange (x.add? y) = .ok r := by
  rw [← add?_eq_none_iff]
  rcases x.add? y with _ | r
  · exact Or.inl ⟨rfl, rfl⟩
  · exact Or.inr ⟨r, nofun, rfl, rfl⟩

/-- Moving money is let through when the balance would not fall below zero. -/
theorem applyDelta_outcome (a : Account) (delta : Decimal) (now : Instant) :
    (Posting.move a delta).Outcome (0 ≤ (Posting.move a delta).sum balance)
      (a.applyDelta delta now) := by
  unfold applyDelta
  rcases inRange_cases a a.balance delta with ⟨hbalance, hrun⟩ | ⟨balance, hbalance, hsum, hrun⟩
  · -- The sum is too large, or else so far below zero that it would not be let through.
    rw [hrun, error_bind]
    by_cases hadmitted : 0 ≤ (Posting.move a delta).sum Account.balance
    · exact .overflowed hadmitted ((Posting.move_overflows_iff a delta).mpr (Or.inl hbalance))
    · exact .refused hadmitted _
  · rw [hrun, ok_bind]
    cases hnegative : balance.isNegative with
    | true =>
        -- Rounding keeps the sign, so the exact sum is below zero as well.
        refine .refused (fun hadmitted => ?_) _
        have hnonneg := (not_isNegative_iff balance).mpr ((add?_nonneg_iff hsum).mpr hadmitted)
        rw [hnonneg] at hnegative
        cases hnegative
    | false =>
        have hadmitted : 0 ≤ (Posting.move a delta).sum Account.balance :=
          (add?_nonneg_iff hsum).mp ((not_isNegative_iff balance).mp hnegative)
        simp only [Bool.false_eq_true, if_false]
        rcases inRange_cases a a.available delta with
          ⟨havailable, hrun'⟩ | ⟨available, havailable, hsum', hrun'⟩
        · rw [hrun', error_bind]
          exact .overflowed hadmitted
            ((Posting.move_overflows_iff a delta).mpr (Or.inr havailable))
        · rw [hrun', ok_bind]
          refine .written hadmitted ?_ ⟨rfl, ?_⟩
          · rw [Posting.move_overflows_iff]
            exact not_or.mpr ⟨hbalance, havailable⟩
          · intro field hfield
            simp only [Posting.move, List.mem_cons, List.not_mem_nil, or_false] at hfield
            rcases hfield with rfl | rfl
            · exact hsum
            · exact hsum'

/-- Once nothing else is in the way, what is available changes unless the sum is out of range. -/
theorem setAvailable_outcome (a : Account) (amount : Decimal) (now : Instant) {admitted : Prop}
    (hadmitted : admitted) :
    (Posting.aside a amount).Outcome admitted ((a.inRange (a.available.add? amount)).bind
      fun available => .ok { a with available := available, updatedAt := now }) := by
  rcases inRange_cases a a.available amount with ⟨hrange, hrun⟩ | ⟨available, hrange, hsum, hrun⟩
  · rw [hrun]
    exact .overflowed hadmitted ((Posting.aside_overflows_iff a amount).mpr hrange)
  · rw [hrun]
    refine .written hadmitted ?_ ⟨rfl, ?_⟩
    · rw [Posting.aside_overflows_iff]
      exact hrange
    · intro field hfield
      rw [List.mem_singleton.mp hfield]
      exact hsum

/-- Setting money aside is let through when as much is available. -/
theorem reserve_outcome (a : Account) (amount : Amount) (now : Instant) :
    (Posting.aside a (-amount.value)).Outcome
      (0 ≤ (Posting.aside a (-amount.value)).sum available) (a.reserve amount now) := by
  have hguard : a.available.lt amount.value = false ↔
      0 ≤ (Posting.aside a (-amount.value)).sum available := by
    rw [← Bool.not_eq_true, lt_iff, not_lt, ← sub_nonneg, sub_eq_add_neg, ← toRat_neg]
    rfl
  unfold reserve
  cases hlt : a.available.lt amount.value with
  | true =>
      refine .refused (fun hadmitted => ?_) _
      rw [hguard.mpr hadmitted] at hlt
      cases hlt
  | false => exact setAvailable_outcome a (-amount.value) now (hguard.mp hlt)

/-- A positive amount is set aside when it is available, and it always fits; otherwise the funds are
    insufficient. -/
theorem reserve_cases (a : Account) {amount : Amount} (hpositive : 0 < amount.value.toRat)
    (now : Instant) :
    (a.available.toRat < amount.value.toRat ∧
      a.reserve amount now = .error (.insufficientFunds a.id)) ∨
    ∃ available, amount.value.toRat ≤ a.available.toRat ∧
      a.available.add? (-amount.value) = some available ∧
      a.reserve amount now = .ok { a with available := available, updatedAt := now } := by
  unfold reserve
  cases hlt : a.available.lt amount.value with
  | true => exact Or.inl ⟨(lt_iff _ _).mp hlt, rfl⟩
  | false =>
      have hle : amount.value.toRat ≤ a.available.toRat := by
        rw [← not_lt, ← lt_iff, hlt]
        exact Bool.false_ne_true
      rcases inRange_cases a a.available (-amount.value) with ⟨hrange, _⟩ | ⟨r, _, hsum, hrun⟩
      · -- What is left lies between zero and what was available.
        refine absurd hrange (mt (fun h => ?_) (not_outOfRange_toRat a.available))
        unfold OutOfRange at h ⊢
        rw [toRat_neg, abs_of_nonneg (by linarith)] at h
        rw [abs_of_nonneg (by linarith)]
        linarith
      · refine Or.inr ⟨r, hle, hsum, ?_⟩
        change (a.inRange (a.available.add? (-amount.value)) >>= _) = _
        rw [hrun]
        rfl

/-- Giving money back is let through always. -/
theorem restore_outcome (a : Account) (amount : Amount) (now : Instant) :
    (Posting.aside a amount.value).Outcome True (a.restore amount now) :=
  setAvailable_outcome a amount.value now trivial

end Account

end BankLedger
