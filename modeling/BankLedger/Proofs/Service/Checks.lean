import BankLedger.Proofs.Account.Form
import BankLedger.Proofs.Attempt
import BankLedger.Proofs.Decimal.Value
import BankLedger.Service.Ledger

/-!
# Checks

What requests and settings are checked for before anything is done. Each check refuses for one
reason, and what it lets through is said here once.

## Theorems

* `Settings.check_eq_ok_iff`: The settings that are accepted.
* `checkRate_eq_ok_iff`: The rates that are accepted.
* `Ledger.checkReason_eq_ok_iff`, `Ledger.checkExpiry_eq_ok_iff`: The holds that are accepted.
* `Ledger.threeCapitals_of_currencyFor`, `Ledger.rate_nonneg_of_rateFor`: Currency and rate of a new
  account, whether they were asked for or taken from the settings.
-/

namespace BankLedger

open Attempt

/-- A rate must not be below zero. -/
theorem checkRate_eq_ok_iff (r x : Decimal) : checkRate r = .ok x ↔ 0 ≤ r.toRat ∧ r = x := by
  unfold checkRate
  rw [check_eq_ok_iff, Bool.not_eq_true, Decimal.not_isNegative_iff, Except.ok.injEq]

/-- Settings are accepted when there are three capital letters for the currency, when no rate is
    below zero, and when nothing that is counted is zero. -/
theorem Settings.check_eq_ok_iff (s : Settings) : s.check = .ok () ↔
    Currency.ThreeCapitals s.currency ∧ (0 ≤ s.interest.checking.toRat ∧
      0 ≤ s.interest.savings.toRat) ∧ s.storageTimeout ≠ 0 ∧ s.numberAttempts ≠ 0 ∧
      s.queueCapacity ≠ 0 := by
  unfold check
  simp only [Attempt.check_eq_ok_iff, Bool.not_eq_true', Bool.not_eq_false, Bool.or_eq_true,
    not_or, Bool.not_eq_true, Currency.isCode_iff, Decimal.not_isNegative_iff, and_true, ne_eq]

/-- A code is accepted when it has three capital letters. -/
theorem Currency.parse_eq_ok_iff (s code : String) :
    Currency.parse s = .ok code ↔ Currency.ThreeCapitals s ∧ s = code := by
  unfold Currency.parse
  rw [← Currency.isCode_iff]
  cases Currency.isCode s with
  | false => exact iff_of_false nofun nofun
  | true => simp only [if_true, Except.ok.injEq, true_and]

namespace Ledger

/-- A reason is accepted when it is not blank, and then it is not empty either. -/
theorem checkReason_eq_ok_iff (reason : String) :
    checkReason reason = .ok () ↔ reason.toList.all Text.isBlank = false := by
  unfold checkReason
  rw [check_eq_ok_iff, Bool.not_eq_true, and_iff_left rfl]

/-- A hold must not end before it begins. -/
theorem checkExpiry_eq_ok_iff (now : Instant) (expiresAt : Option Instant) :
    checkExpiry now expiresAt = .ok () ↔ ∀ t ∈ expiresAt, now.before t = true := by
  cases expiresAt with
  | none => exact iff_of_true rfl nofun
  | some t =>
      unfold checkExpiry
      cases h : now.before t <;> simp [h]

variable {settings : Settings}

theorem threeCapitals_of_currencyFor (h : settings.check = .ok ()) {asked : Option String}
    {currency : String} (hcurrency : currencyFor settings asked = .ok currency) :
    Currency.ThreeCapitals currency := by
  cases asked with
  | none =>
      cases hcurrency
      exact ((Settings.check_eq_ok_iff settings).mp h).1
  | some code =>
      rcases (Currency.parse_eq_ok_iff code currency).mp hcurrency with ⟨hcode, rfl⟩
      exact hcode

theorem rate_nonneg_of_rateFor (h : settings.check = .ok ()) {kind : AccountKind}
    {asked : Option Decimal} {rate : Decimal} (hrate : rateFor settings kind asked = .ok rate) :
    0 ≤ rate.toRat := by
  cases asked with
  | none =>
      cases hrate
      have hrates := ((Settings.check_eq_ok_iff settings).mp h).2.1
      cases kind with
      | checking => exact hrates.1
      | savings => exact hrates.2
  | some r =>
      rcases (checkRate_eq_ok_iff r rate).mp hrate with ⟨hnonneg, rfl⟩
      exact hnonneg

end Ledger

end BankLedger
