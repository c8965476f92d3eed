import BankLedger.Proofs.Service.Posting
import BankLedger.Proofs.Store.Run
import BankLedger.Service.Numbers

/-!
# Money is Exact or Refused

The ledger is meant to count money exactly: what a credit, a debit, a hold or its release writes is
the exact sum, and a sum that no decimal stands for is refused. The second half of this does not
hold. The operations only ask whether there is a sum, and there is one whenever the number is in
range, if need be with digits rounded away.

So the promise is kept on the requests whose sums can be represented and on those that are refused
anyway, and on no others. It takes numbers of more than 28 digits to be among the others: with the
largest decimal on an account, setting half a unit aside takes a whole one.

## Main definitions

* `Request.ExactOrRefused`: What is promised of a posting.

## Theorems

* `givenBack_of_representable`: A hold that is released at once gives back what there was.
* `exactOrRefused_iff`: When the promise is kept.
* `not_exactOrRefused_max`: It is not kept with the largest decimal on the account.
-/

namespace BankLedger

namespace Request

open Decimal Program

/-- What is promised of a posting: it is exact, or else it is refused. -/
structure ExactOrRefused (settings : Settings) (w : World) (r : Request) (p : Posting) : Prop where
  /-- The balances that are written are the exact sums. -/
  exact : ∀ answer v, (r.program settings).runAlone w = (.ok answer, v) →
    ∃ b, v.store.accounts.get? p.account.id = some b ∧
      ∀ field ∈ p.fields, (field b).toRat = p.sum field
  /-- When nothing else speaks against it, but a sum cannot be represented, the request is refused
      for that reason and nothing is written. -/
  refused : r.Admitted w p → (∃ field ∈ p.fields, ¬ Representable (p.sum field)) →
    ∃ v, (r.program settings).runAlone w = (.error p.account.overflow, v) ∧ v.store = w.store
  /-- A hold that is released at once gives back exactly what was available before. -/
  givenBack : ∀ request h v, r = .createHold request →
    (r.program settings).runAlone w = (.ok (.hold h), v) →
      ∃ answer u b, ((Request.releaseHold h.id).program settings).runAlone v = (.ok answer, u) ∧
        u.store.accounts.get? p.account.id = some b ∧
        b.available.toRat = p.account.available.toRat

/-- Sums that are in range and can be represented are written exactly. -/
theorem eq_sum_of_written {p : Posting} {b : Account} (hb : p.WrittenIn b)
    {field : Account → Decimal} (hfield : field ∈ p.fields) :
    (field b).toRat = p.sum field ↔ Representable (p.sum field) :=
  add?_exact_iff (hb.2 field hfield)

/-- A hold that is released at once gives back what there was, when it was set aside exactly. -/
theorem givenBack_of_representable (settings : Settings) {w v : World} {request : HoldRequest}
    {h : Hold} {p : Posting} (hp : (Request.createHold request).posting? w.store = some p)
    (hrun : ((Request.createHold request).program settings).runAlone w = (.ok (.hold h), v))
    (hrep : Representable (p.sum Account.available)) :
    ∃ answer u b, ((Request.releaseHold h.id).program settings).runAlone v = (.ok answer, u) ∧
      u.store.accounts.get? p.account.id = some b ∧
      b.available.toRat = p.account.available.toRat := by
  have hserved := served settings hp
  rcases posting?_createHold_eq_some hp with ⟨a, ha, rfl⟩
  rw [hrun] at hserved
  -- The hold was created, so only the third outcome is left.
  rcases hserved with _ | _ | @⟨_, _, _, _, b, hfound, hwritten⟩
  rcases (runAlone_bind_eq_ok_iff _ _ _ _ _).mp hrun with ⟨h', v', hcreated, heq⟩
  cases heq
  rcases Ledger.hold_of_createHold hcreated with ⟨hstored, haccount, hamount, hactive⟩
  have hid : a.id = h.account := (Table.key_of_get? ha).trans haccount.symm
  have hfound' : v.store.accounts.get? h.account = some b := hid ▸ hfound
  -- What is available was reduced exactly, so adding the amount leads back to a decimal.
  have hback : (Posting.aside b h.amount.value).sum Account.available = a.available.toRat := by
    have hreduced := (eq_sum_of_written hwritten List.mem_cons_self).mpr hrep
    simp only [Posting.sum, Posting.aside, toRat_neg] at hreduced ⊢
    rw [hreduced, hamount]
    ring
  have hposting : (Request.releaseHold h.id).posting? v.store = some (.aside b h.amount.value) := by
    simp only [posting?, hstored, Option.bind_some, hfound', Option.map_some]
  have hserved' := served settings hposting
  rcases hrelease : ((Request.releaseHold h.id).program settings).runAlone v with ⟨result, u⟩
  rw [hrelease] at hserved'
  cases hserved' with
  | refused hadmitted _ => exact absurd ⟨h, hstored, hactive⟩ hadmitted
  | overflowed _ hrange =>
      rw [Posting.aside_overflows_iff, hback] at hrange
      exact absurd hrange (not_outOfRange_toRat _)
  | @written _ _ answer _ c hfound'' hwritten' =>
      refine ⟨answer, u, c, rfl, ?_, ?_⟩
      · rw [← hfound'']
        exact congrArg u.store.accounts.get? hwritten.1.symm
      · have hrepresentable := representable_toRat a.available
        rw [← hback] at hrepresentable
        rw [(eq_sum_of_written hwritten' List.mem_cons_self).mpr hrepresentable, hback]
        rfl

/-- Money is exact or refused when the sums can be represented, and only then: a sum that is in
    range but has too many digits is rounded, and the request succeeds all the same. What is written
    is off by at most half of its last digit, and a refused request writes nothing. -/
theorem exactOrRefused_iff (settings : Settings) (w : World) (r : Request) (p : Posting)
    (hp : r.posting? w.store = some p) :
    (ExactOrRefused settings w r p ↔
      (r.Admitted w p → ¬ p.Overflows → ∀ field ∈ p.fields, Representable (p.sum field))) ∧
    (∀ answer v, (r.program settings).runAlone w = (.ok answer, v) →
      ∃ b, v.store.accounts.get? p.account.id = some b ∧ ∀ field ∈ p.fields,
        |(field b).toRat - p.sum field| ≤ 1 / (2 * 10 ^ (field b).scale)) ∧
    ∀ e v, (r.program settings).runAlone w = (.error e, v) → v.store = w.store := by
  have hserved := served settings hp
  rcases hrun : (r.program settings).runAlone w with ⟨e | answer, v⟩ <;> rw [hrun] at hserved
  · -- The request failed. If it was let through, the promise asks that this was an overflow.
    have hrefused := hserved.of_error
    have hnot : ∀ (answer : Answer) (v' : World),
        ((.error e : Except LedgerError Answer), v) ≠ (.ok answer, v') := by
      rintro _ _ heq
      cases heq
    refine ⟨⟨fun _ hadmitted hrange => absurd (hrefused.2 hadmitted).1 hrange, fun _ => ?_⟩,
      fun _ _ heq => absurd heq (hnot _ _), ?_⟩
    · constructor
      · exact fun _ _ heq => absurd (hrun.symm.trans heq) (hnot _ _)
      · intro hadmitted _
        rw [hrun, (hrefused.2 hadmitted).2]
        exact ⟨v, rfl, hrefused.1⟩
      · exact fun _ _ _ _ heq => absurd (hrun.symm.trans heq) (hnot _ _)
    · rintro e' v' heq
      cases heq
      exact hrefused.1
  · -- The request succeeded, so its sums are written, and each is exact when it can be.
    rcases hserved.of_ok with ⟨hadmitted, hrange, b, hfound, hwritten⟩
    refine ⟨⟨fun hpromise _ _ field hfield => ?_, fun hrep => ?_⟩, ?_, ?_⟩
    · rcases hpromise.exact answer v hrun with ⟨c, _, hsum⟩
      exact ⟨field c, hsum field hfield⟩
    · have hsums := hrep hadmitted hrange
      constructor
      · intro answer' v' heq
        cases hrun.symm.trans heq
        exact ⟨b, hfound, fun field hfield =>
          (eq_sum_of_written hwritten hfield).mpr (hsums field hfield)⟩
      · rintro _ ⟨field, hfield, hlost⟩
        exact absurd (hsums field hfield) hlost
      · intro request h v' hr hrun'
        subst hr
        refine givenBack_of_representable settings hp hrun' (hsums _ ?_)
        rcases posting?_createHold_eq_some hp with ⟨a, _, rfl⟩
        exact List.mem_cons_self
    · rintro _ _ heq
      cases heq
      exact ⟨b, hfound, fun field hfield => add?_near (hwritten.2 field hfield)⟩
    · rintro _ _ heq
      cases heq

/-- A ledger with one account, on which `amount` was put. -/
def ledgerWith (amount : Decimal) : World :=
  { World.start 8 .counted .epoch with
    store := Store.empty.afterAll
      [(.epoch, .createAccount .untouched), (.epoch, .applyDelta default amount)] }

/-- To set half a unit aside on that account. -/
def halfUnit : HoldRequest := ⟨default, .ofUnits 5 1, "rent", none, none⟩

/-- A hundred. -/
def hundred : Decimal := .ofUnits 100 0

/-- With a hundred on the account, half a unit less is a decimal, so the promise is kept. -/
theorem exactOrRefused_hundred :
    ∃ p, (createHold halfUnit).posting? (ledgerWith hundred).store = some p ∧
      ExactOrRefused .default (ledgerWith hundred) (createHold halfUnit) p := by
  have havailable : ∀ a ∈ (ledgerWith hundred).store.accounts.get? default,
      a.available.toRat = 100 := by decide +kernel
  rcases hp : (createHold halfUnit).posting? (ledgerWith hundred).store with _ | p
  · exact absurd hp (by decide +kernel)
  · refine ⟨p, rfl, (exactOrRefused_iff .default _ _ p hp).1.mpr fun _ _ field hfield => ?_⟩
    rcases posting?_createHold_eq_some hp with ⟨a, ha, rfl⟩
    refine ⟨.ofUnits 995 1, ?_⟩
    rw [List.mem_singleton.mp hfield, Posting.sum]
    change _ = a.available.toRat + (-halfUnit.amount).toRat
    rw [havailable a ha]
    decide +kernel

/-- With the largest decimal on the account, half a unit less has a digit too many. The hold is
    created, and a whole unit is set aside for it. -/
theorem not_exactOrRefused_max :
    ∃ p, (createHold halfUnit).posting? (ledgerWith .max).store = some p ∧
      ¬ ExactOrRefused .default (ledgerWith .max) (createHold halfUnit) p := by
  have hbefore : ∀ a ∈ (ledgerWith .max).store.accounts.get? default,
      a.id = default ∧ a.available = .max := by decide +kernel
  have hok : (((createHold halfUnit).program .default).runAlone (ledgerWith .max)).1.isOk
      = true := by decide +kernel
  have hafter : ∀ b ∈ (((createHold halfUnit).program .default).runAlone
      (ledgerWith .max)).2.store.accounts.get? default,
      b.available.toRat = Decimal.max.toRat - 1 := by decide +kernel
  rcases hp : (createHold halfUnit).posting? (ledgerWith .max).store with _ | p
  · exact absurd hp (by decide +kernel)
  · refine ⟨p, rfl, fun hpromise => ?_⟩
    rcases posting?_createHold_eq_some hp with ⟨a, ha, rfl⟩
    rcases hbefore a ha with ⟨hid, havailable⟩
    rcases hrun : ((createHold halfUnit).program .default).runAlone (ledgerWith .max) with
      ⟨e | answer, v⟩ <;> rw [hrun] at hok hafter
    · cases hok
    · rcases hpromise.exact answer v hrun with ⟨b, hfound, hsum⟩
      have hexact := hsum Account.available List.mem_cons_self
      have hfound' : v.store.accounts.get? default = some b := hid ▸ hfound
      rw [hafter b hfound', Posting.sum] at hexact
      change _ = a.available.toRat + (-halfUnit.amount).toRat at hexact
      rw [havailable] at hexact
      exact absurd hexact (by decide +kernel)

end Request

end BankLedger
