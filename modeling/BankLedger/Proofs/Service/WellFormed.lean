import BankLedger.Proofs.Service.Conduct
import BankLedger.Proofs.Store.Frame

/-!
# Everything Stored Is Well Formed

The store takes whatever it is given. That what it holds is in order is up to those who call it: to
the check of the settings, from which new accounts take what was not asked for, to the checks of
the requests, and to the types of what is made on the way. Here the checks are followed to the rows
they are for. No way into a row goes past them, neither by an account that is opened, nor by a rate
that is set later, nor by a hold.

## Main definitions

* `Account.WellFormed`, `Hold.WellFormed`: The rows that are in order.
* `Store.WellFormed`: All rows are.

## Theorems

* `FulfilledBy.account_wellFormed`, `FulfilledBy.hold_wellFormed`: Requests bring only such rows.
* `WellFormed.effect`: A call that a request is after keeps the store in order.
* `wellFormed_run`: Everything stored is well formed, for every schedule.
-/

namespace BankLedger

/-- An account that is in order. -/
structure Account.WellFormed (a : Account) : Prop where
  /-- Three letters from `A` to `Z`. -/
  currency : Currency.ThreeCapitals a.currency
  rate : 0 ≤ a.rate.toRat
  /-- Two, four and four digits with hyphens between them. -/
  number : AccountNumber.Grouped a.number.text.toList
  balance : 0 ≤ a.balance.toRat

/-- A hold that is in order. -/
structure Hold.WellFormed (h : Hold) : Prop where
  amount : 0 < h.amount.value.toRat
  reason : ∃ c ∈ h.reason.toList, Text.isBlank c = false
  expiry : ∀ t ∈ h.expiresAt, h.createdAt.before t = true

/-- Everything in the store is in order, and the account of every hold is there. -/
structure Store.WellFormed (s : Store) : Prop where
  account : ∀ a ∈ s.accounts.rows, a.WellFormed
  hold : ∀ h ∈ s.holds.rows, h.WellFormed
  holdAccount : ∀ h ∈ s.holds.rows, ∃ a ∈ s.accounts.rows, a.id = h.account

/-- A hold that is released stays in order. -/
theorem Hold.WellFormed.kept {h g : Hold} (hh : h.WellFormed) (hkept : h.Kept g) :
    g.WellFormed := by
  have hsame := hkept.same
  refine ⟨?_, ?_, ?_⟩
  · rw [← hsame]; exact hh.amount
  · rw [← hsame]; exact hh.reason
  · rw [← hsame]; exact hh.expiry

namespace Request.FulfilledBy

variable {settings : Settings} {r : Request} {a : Account} {h : Hold}

/-- An account that a request opens is in order. -/
theorem account_wellFormed (hsettings : settings.check = .ok ())
    (hr : r.FulfilledBy settings (.createAccount a)) : a.WellFormed := by
  cases hr with
  | @opened request id currency number rate now hcurrency hrate =>
      exact {
        currency := Ledger.threeCapitals_of_currencyFor hsettings hcurrency
        rate := Ledger.rate_nonneg_of_rateFor hsettings hrate
        number := (AccountNumber.isWellFormed_iff _).mp number.wellFormed
        balance := le_of_eq Decimal.toRat_zero.symm }

/-- So is a hold that a request makes. -/
theorem hold_wellFormed (hr : r.FulfilledBy settings (.createHold h)) : h.WellFormed := by
  cases hr with
  | held hamount hreason hexpiry =>
      rcases (Amount.ofDecimal_eq_ok_iff _ _).mp hamount with ⟨hpositive, hvalue⟩
      refine ⟨hvalue ▸ hpositive, ?_, (Ledger.checkExpiry_eq_ok_iff _ _).mp hexpiry⟩
      rcases List.all_eq_false.mp ((Ledger.checkReason_eq_ok_iff _).mp hreason) with
        ⟨c, hc, hvisible⟩
      exact ⟨c, hc, Bool.not_eq_true _ ▸ hvisible⟩

/-- A rate that a request sets is not below zero. -/
theorem rate_nonneg {id : AccountId} {status : Option Status} {rate : Decimal}
    (hr : r.FulfilledBy settings (.amend id status (some rate))) : 0 ≤ rate.toRat := by
  cases hr with
  | amended _ hrate => exact (Decimal.not_isNegative_iff rate).mp (hrate rate rfl)

end Request.FulfilledBy

namespace Store

variable {s t : Store} {now : Instant} {c : Call} {settings : Settings} {r : Request}

theorem wellFormed_empty : empty.WellFormed where
  account _ ha := absurd ha List.not_mem_nil
  hold _ hh := absurd hh List.not_mem_nil
  holdAccount _ hh := absurd hh List.not_mem_nil

/-- A balance that is written is not below zero. -/
theorem Change.balance_nonneg {a b : Account} (h : Change now c a b) (ha : 0 ≤ a.balance.toRat) :
    0 ≤ b.balance.toRat := by
  rcases h.balance_cases with hsame | ⟨_, _, _, hmoved⟩
  · exact hsame ▸ ha
  · rcases (Account.applyDelta_eq_ok_iff _ _ _ _).mp hmoved with ⟨_, _, _, hnonneg, _, rfl⟩
    exact (Decimal.not_isNegative_iff _).mp hnonneg

/-- An account that is changed as a request is after stays in order. -/
theorem Change.wellFormed {a b : Account} (h : Change now c a b)
    (hr : r.FulfilledBy settings c) (ha : a.WellFormed) : b.WellFormed where
  currency := h.writes.kept.currency_eq ▸ ha.currency
  rate := by
    rcases h.writes.rate_cases with hsame | ⟨_, _, rfl⟩
    · exact hsame ▸ ha.rate
    · exact hr.rate_nonneg
  number := h.writes.kept.number_eq ▸ ha.number
  balance := h.balance_nonneg ha.balance

/-- A call that a request is after keeps everything in the store in order. -/
theorem WellFormed.effect (hs : s.WellFormed) (hsettings : settings.check = .ok ())
    (hr : r.FulfilledBy settings c) (heffect : Effect s now c t) : t.WellFormed where
  account b hb := by
    rcases heffect.account_cases (Table.get?_of_mem hb) with rfl | hold | ⟨a, ha, hchange⟩
    · exact hr.account_wellFormed hsettings
    · exact hs.account b (Table.mem_of_get? hold)
    · exact hchange.wellFormed hr (hs.account a (Table.mem_of_get? ha))
  hold g hg := by
    rcases heffect.hold_cases (Table.get?_of_mem hg) with
      ⟨rfl, _⟩ | hold | ⟨h, time, hold, hactive, _, rfl⟩
    · exact hr.hold_wellFormed
    · exact hs.hold g (Table.mem_of_get? hold)
    · exact (hs.hold h (Table.mem_of_get? hold)).kept (Hold.kept_of_isActive hactive time)
  holdAccount g hg := by
    have horphans : s.NoOrphans := fun k h hh => by
      rcases hs.holdAccount h (Table.mem_of_get? hh) with ⟨a, ha, hid⟩
      exact ⟨a, hid ▸ Table.get?_of_mem ha⟩
    rcases horphans.effect heffect _ g (Table.get?_of_mem hg) with ⟨a, ha⟩
    exact ⟨a, Table.mem_of_get? ha, Table.key_of_get? ha⟩

end Store

open Store

namespace Chronicle

variable {ι : Type} [DecidableEq ι] {settings : Settings}

/-- With settings that are accepted, everything stored is well formed: however requests are
    interleaved and whatever they ask for, whichever calls the store refuses, and whatever numbers
    are drawn, the same ones again or none at all. -/
theorem wellFormed_run (hsettings : settings.check = .ok ()) (capacity : Nat)
    (numbers : NumberSource) (clock : Instant) (requests : ι → Request)
    (moments : ι → Nat → Moment) (schedule : List ι) :
    ((start settings (.start capacity numbers clock) requests).run moments
      schedule).store.WellFormed :=
  (conducted_start (.start capacity numbers clock)).store_induction
    (fun _ _ _ _ _ hfulfilled heffect h => h.effect hsettings hfulfilled heffect) moments
    wellFormed_empty schedule

/-- An account is opened, paid into, and has some of the money set aside, one after the other. -/
def paidAndHeld : Nat → Request
  | 0 => .openAccount ⟨default, .savings, some "EUR", none⟩
  | 1 => .credit ⟨.timeOrdered 0 0⟩ (.ofUnits 100 0)
  | _ => .createHold ⟨⟨.timeOrdered 0 0⟩, .ofUnits 40 0, "rent", none, some ⟨1, 0⟩⟩

/-- All of it, with one account number that is drawn again and again. -/
def paidAndHeldRun : Chronicle Nat :=
  (start .default (.start 8 (fun _ => .ok Account.untouched.number) .epoch) paidAndHeld).run
    (fun _ _ => ⟨.epoch, 0, 0, none⟩)
    (List.replicate 5 0 ++ List.replicate 4 1 ++ List.replicate 5 2)

/-- The account and the hold are there, and in order. -/
theorem paidAndHeldRun_wellFormed : paidAndHeldRun.store.WellFormed ∧
    paidAndHeldRun.store.accounts.rows.length = 1 ∧ paidAndHeldRun.store.holds.rows.length = 1 :=
  ⟨wellFormed_run (by decide +kernel) _ _ _ _ _ _, by decide +kernel, by decide +kernel⟩

end Chronicle

end BankLedger
