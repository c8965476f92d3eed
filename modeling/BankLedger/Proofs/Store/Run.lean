import BankLedger.Proofs.Store.Change

/-!
# Runs of the Store

A run is a list of calls, each with the time at which it is carried out. Since a call is one step of
the store, every interleaving of callers is such a list, and what holds after every list of calls
holds whatever the callers do.

Callers do not bring just any row into the store. An account comes in as it is opened, active and
empty, and a hold as it is made, active and with an amount above zero; `Call.BringsNew` says so, and
it is all that the invariants of the store ask of its callers.

## Main definitions

* `Call.BringsNew`: The rows that a call brings are new ones.
* `Store.afterAll`: The store after a run.

## Theorems

* `Effect.active_of_new`: An account that was not there before a call is active.
* `afterAll_induction`: What every call preserves holds after every run.
-/

namespace BankLedger

/-- The rows that a call brings are new ones: an account as it is opened, a hold as it is made. -/
def Call.BringsNew : Call → Prop
  | .createAccount a => ∃ id customer kind currency number rate now,
      a = Account.start id customer kind currency number rate now
  | .createHold h => h.amount.value.isPositive = true ∧
      ∃ id account reason reference expiresAt now,
        h = Hold.start id account h.amount reason reference expiresAt now
  | _ => True

namespace Store

/-- An account that was not there before a call is active. -/
theorem Effect.active_of_new {s t : Store} {now : Instant} {c : Call} (h : Effect s now c t)
    (hnew : c.BringsNew) {id : AccountId} {b : Account} (hfree : s.accounts.get? id = none)
    (hb : t.accounts.get? id = some b) : b.status = .active := by
  rcases h.account_cases hb with rfl | hold | ⟨a, hold, _⟩
  · rcases hnew with ⟨_, _, _, _, _, _, _, rfl⟩
    rfl
  · cases hfree.symm.trans hold
  · cases hfree.symm.trans hold

/-- The store after a run. -/
def afterAll (s : Store) (calls : List (Instant × Call)) : Store :=
  calls.foldl (fun s c => s.after c.1 c.2) s

theorem afterAll_cons (s : Store) (now : Instant) (c : Call) (rest : List (Instant × Call)) :
    s.afterAll ((now, c) :: rest) = (s.after now c).afterAll rest := rfl

/-- What every call preserves holds after every run. A call that is refused or only looks preserves
    everything, so only effects have to be looked at. -/
theorem afterAll_induction {P : Store → Prop} (ok : Call → Prop)
    (hstep : ∀ s t now c, ok c → P s → Effect s now c t → P t) (s : Store) (hs : P s)
    (calls : List (Instant × Call)) (hok : ∀ c ∈ calls, ok c.2) : P (s.afterAll calls) := by
  induction calls generalizing s with
  | nil => exact hs
  | cons c rest ih =>
      rcases c with ⟨now, c⟩
      rw [afterAll_cons]
      refine ih _ ?_ fun d hd => hok d (List.mem_cons_of_mem _ hd)
      rcases after_cases s now c with hsame | ⟨_, heffect⟩
      · rw [hsame]
        exact hs
      · exact hstep s _ now c (hok _ List.mem_cons_self) hs heffect

end Store

end BankLedger
