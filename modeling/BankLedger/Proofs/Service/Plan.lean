import BankLedger.Proofs.Service.Traffic
import BankLedger.Proofs.Store.Change

/-!
# Plans

A request for a posting looks at the status of an account, perhaps, and then either stops or makes
the one call that changes the store. While only postings are under way no status changes, so it does
not matter when the look is taken: which of the two happens, and with which call, is settled by the
statuses at the beginning. That is the plan of the request.

What is decided on the stale look is therefore only the plan. Whether there is enough money is
decided by the call itself, on the store as it is at that moment, and what follows the call only
looks. So the answer of a request hangs on the store at its one call, except for the balances that a
credit or a debit reads back.

## Main definitions

* `Store.statuses`: The status of each account.
* `Plan`: To stop, or to make a call at a certain step.
* `Program.Leads`: With these statuses the program leads to the plan.
* `Program.Ends`: What the program may announce and answer, whatever the looks show.
* `SameButReadBack`: Two answers that differ in what was read back only.

## Theorems

* `Moment.statuses_after`: A posting changes no status.
* `Request.exists_plan`: Every request for a posting has a plan.
-/

namespace BankLedger

/-- The call is a posting. -/
def Call.isPosting : Call → Bool
  | .applyDelta _ _ => true
  | .createHold _ => true
  | .releaseHold _ _ => true
  | _ => false

theorem Call.isMutating_of_isPosting {c : Call} (h : c.isPosting = true) : c.isMutating = true := by
  cases c <;> first | rfl | cases h

namespace Store

/-- The status of each account that is there. -/
def statuses (s : Store) (id : AccountId) : Option Status :=
  (s.accounts.get? id).map Account.status

theorem statuses_setAccount {s : Store} {id : AccountId} {a b : Account}
    (ha : s.accounts.get? id = some a) (hid : b.id = a.id) (hstatus : b.status = a.status) :
    (s.setAccount b).statuses = s.statuses := by
  funext k
  unfold statuses
  rw [get?_setAccount ha hid]
  by_cases hk : id = k
  · rw [if_pos hk, ← hk, ha, Option.map_some, Option.map_some, hstatus]
  · rw [if_neg hk]

/-- A posting changes no status. -/
theorem statuses_after (s : Store) (now : Instant) {c : Call} (hc : c.isPosting = true) :
    (s.after now c).statuses = s.statuses := by
  rcases after_cases s now c with hsame | ⟨_, heffect⟩
  · rw [hsame]
  · -- Each posting writes its account back with the status that it found.
    generalize s.after now c = t at heffect
    cases heffect with
    | @moved id delta _ _ ha hb =>
        have hchange : Change now (.applyDelta id delta) _ _ := .moved hb
        exact statuses_setAccount ha hchange.id_eq (congrArg Account.status hchange.writes).symm
    | @held h _ _ _ ha _ hb =>
        have hchange : Change now (.createHold h) _ _ := .held hb
        exact statuses_setAccount ha hchange.id_eq (congrArg Account.status hchange.writes).symm
    | @released k time _ _ _ _ ha _ hb =>
        have hchange : Change now (.releaseHold k time) _ _ := .released hb
        exact statuses_setAccount ha hchange.id_eq (congrArg Account.status hchange.writes).symm
    | looked _ => rfl
    | opened | amended | acted => cases hc

end Store

namespace Moment

theorem statuses_after (m : Moment) (s : Store) {c : Call} (hc : c.isPosting = true) :
    (m.after s c).statuses = s.statuses := by
  unfold after
  cases m.refusal with
  | some e => rfl
  | none => exact s.statuses_after _ hc

/-- What a look at an account shows is settled by the statuses: nothing, or an account with the
    status it has in all these stores. -/
theorem answer_getAccount (m : Moment) (statuses : AccountId → Option Status) (id : AccountId) :
    (∃ e, ∀ s : Store, s.statuses = statuses → m.answer s (.getAccount id) = .error e) ∨
      ∃ status, statuses id = some status ∧ ∀ s : Store, s.statuses = statuses →
        ∃ a : Account, m.answer s (.getAccount id) = .ok a ∧ a.id = id ∧ a.status = status := by
  unfold answer
  cases m.refusal with
  | some e => exact Or.inl ⟨e, fun _ _ => rfl⟩
  | none =>
      cases hstatus : statuses id with
      | none =>
          refine Or.inl ⟨.accountNotFound (.id id), fun s hs => ?_⟩
          have hnone : s.accounts.get? id = none := by
            rw [← hs] at hstatus
            exact Option.map_eq_none_iff.mp hstatus
          change ((s.account id).map _).map Prod.fst = _
          unfold Store.account
          rw [hnone]
          rfl
      | some status =>
          refine Or.inr ⟨status, rfl, fun s hs => ?_⟩
          rw [← hs] at hstatus
          rcases Option.map_eq_some_iff.mp hstatus with ⟨a, ha, hastatus⟩
          refine ⟨a, ?_, Table.key_of_get? ha, hastatus⟩
          change ((s.account id).map _).map Prod.fst = _
          rw [(Store.account_eq_ok_iff s id a).mpr ha]
          rfl

end Moment

/-- What becomes of a request before it changes the store. -/
inductive Plan where
  /-- It stops with an answer or an error. -/
  | stops (r : Except LedgerError Answer)
  /-- At one of its steps it makes the call that changes the store, and then goes on. -/
  | commits (step : Nat) (c : Call) (next : Except LedgerError c.Reply → Program Answer)

namespace Program

variable (statuses : AccountId → Option Status) (moments : Nat → Moment)

/-- In stores with these statuses a program leads to the plan, from one of its steps on. -/
inductive Leads : Nat → Program Answer → Plan → Prop where
  | done {n : Nat} (r : Except LedgerError Answer) : Leads n (.done r) (.stops r)
  | commits {n : Nat} (c : Call) (next : Except LedgerError c.Reply → Program Answer)
      (hc : c.isMutating = true) : Leads n (.call c next) (.commits n c next)
  /-- The call looks, and the plan is the same whatever of these stores it meets. -/
  | looks {n : Nat} {c : Call} {next : Except LedgerError c.Reply → Program Answer} {plan : Plan}
      (hc : c.isMutating = false) (h : ∀ s : Store, s.statuses = statuses →
        Leads (n + 1) (next ((moments n).answer s c)) plan) : Leads n (.call c next) plan
  | now {n : Nat} {next : Instant → Program Answer} {plan : Plan}
      (h : Leads (n + 1) (next (moments n).clock) plan) : Leads n (.now next) plan
  | fresh {n : Nat} {next : Uuid → Program Answer} {plan : Plan}
      (h : Leads (n + 1) (next (moments n).uuid) plan) : Leads n (.fresh next) plan

/-- The program makes no call that changes the store, whatever it is answered. -/
inductive OnlyLooks : Program Answer → Prop where
  | done (r : Except LedgerError Answer) : OnlyLooks (.done r)
  | looks {c : Call} {next : Except LedgerError c.Reply → Program Answer}
      (hc : c.isMutating = false) (h : ∀ r, OnlyLooks (next r)) : OnlyLooks (.call c next)
  | announce {e : Notice} {next : Program Answer} (h : OnlyLooks next) :
      OnlyLooks (.announce e next)

/-- What a program may announce and answer from one of its steps on, when each of its looks meets
    some store with these statuses. -/
inductive Ends : Nat → Program Answer → List Event → Except LedgerError Answer → Prop where
  | done {n : Nat} (r : Except LedgerError Answer) : Ends n (.done r) [] r
  | looks {n : Nat} {c : Call} {next : Except LedgerError c.Reply → Program Answer}
      {events : List Event} {r : Except LedgerError Answer} {s : Store} (hs : s.statuses = statuses)
      (h : Ends (n + 1) (next ((moments n).answer s c)) events r) :
      Ends n (.call c next) events r
  | announce {n : Nat} {e : Notice} {next : Program Answer} {events : List Event}
      {r : Except LedgerError Answer} (h : Ends (n + 1) next events r) :
      Ends n (.announce e next) ((moments n).event e :: events) r

variable {statuses moments}

theorem ends_done {n : Nat} {events : List Event} {r r' : Except LedgerError Answer}
    (h : Ends statuses moments n (.done r) events r') : events = [] ∧ r' = r := by
  cases h
  exact ⟨rfl, rfl⟩

theorem ends_announce_done {n : Nat} {e : Notice} {events : List Event}
    {r r' : Except LedgerError Answer}
    (h : Ends statuses moments n (.announce e (.done r)) events r') :
    events = [(moments n).event e] ∧ r' = r := by
  cases h with
  | announce h =>
      rcases ends_done h with ⟨rfl, rfl⟩
      exact ⟨rfl, rfl⟩

theorem ends_call {n : Nat} {c : Call} {next : Except LedgerError c.Reply → Program Answer}
    {events : List Event} {r : Except LedgerError Answer}
    (h : Ends statuses moments n (.call c next) events r) : ∃ s : Store, s.statuses = statuses ∧
      Ends statuses moments (n + 1) (next ((moments n).answer s c)) events r := by
  cases h with
  | looks hs h => exact ⟨_, hs, h⟩

end Program

/-- Two answers to a request, each with the events announced on the way, are the same, or they
    differ in the balances that were read back only. -/
inductive SameButReadBack : List Event → Except LedgerError Answer → List Event →
    Except LedgerError Answer → Prop where
  /-- They are the same. -/
  | same (events : List Event) (r : Except LedgerError Answer) : SameButReadBack events r events r
  /-- Money has moved, and the balances of the account were read back. -/
  | readBack (m : Moment) {a b : Account} (hid : a.id = b.id) :
      SameButReadBack [m.event (.balanceUpdated a)] (.ok (.moved (some a.balances)))
        [m.event (.balanceUpdated b)] (.ok (.moved (some b.balances)))

/-- What a plan has to be for its request to hang on the store at its one call: that call is a
    posting, only looks follow it, and what they show matters for what is read back only. -/
def Plan.Sound (statuses : AccountId → Option Status) (moments : Nat → Moment) : Plan → Prop
  | .stops _ => True
  | .commits n c next => c.isPosting = true ∧ (∀ r, (next r).OnlyLooks) ∧
      ∀ r events answer events' answer', (next r).Ends statuses moments (n + 1) events answer →
        (next r).Ends statuses moments (n + 1) events' answer' →
          SameButReadBack events answer events' answer'

namespace Request

variable (statuses : AccountId → Option Status) (moments : Nat → Moment)

/-- A program has a plan from one of its steps on, and the plan is sound. -/
def HasPlan (n : Nat) (p : Program Answer) : Prop :=
  ∃ plan : Plan, plan.Sound statuses moments ∧ p.Leads statuses moments n plan

variable {statuses moments}

theorem hasPlan_done (n : Nat) (r : Except LedgerError Answer) :
    HasPlan statuses moments n (.done r) :=
  ⟨.stops r, trivial, .done r⟩

theorem hasPlan_time {n : Nat} {f : Instant → Program Answer}
    (h : HasPlan statuses moments (n + 1) (f (moments n).clock)) :
    HasPlan statuses moments n (Program.time >>= f) := by
  rcases h with ⟨plan, hsound, hleads⟩
  exact ⟨plan, hsound, .now hleads⟩

theorem hasPlan_fresh {n : Nat} {next : Uuid → Program Answer}
    (h : HasPlan statuses moments (n + 1) (next (moments n).uuid)) :
    HasPlan statuses moments n (.fresh next) := by
  rcases h with ⟨plan, hsound, hleads⟩
  exact ⟨plan, hsound, .fresh hleads⟩

-- After a look at an account the plan is settled: a check of the status passes in all stores with
-- these statuses or in none, and its error names the account and the status.
theorem hasPlan_account {n : Nat} {id : AccountId}
    {next : Except LedgerError (Call.getAccount id).Reply → Program Answer}
    (hend : ∀ e, next (.error e) = .done (.error e))
    (hcheck : ∀ (a : Account) e, a.ensureActive = .error e → next (.ok a) = .done (.error e))
    (hactive : statuses id = some .active → ∃ p, HasPlan statuses moments (n + 1) p ∧
      ∀ a : Account, a.ensureActive = .ok () → next (.ok a) = p) :
    HasPlan statuses moments n (.call (.getAccount id) next) := by
  rcases (moments n).answer_getAccount statuses id with ⟨e, he⟩ | ⟨status, hstatus, hfound⟩
  · -- The account is missing, or the store does not answer at this step.
    refine ⟨.stops (.error e), trivial, .looks rfl fun s hs => ?_⟩
    rw [he s hs, hend]
    exact .done _
  · by_cases hst : status = .active
    · subst hst
      rcases hactive hstatus with ⟨p, ⟨plan, hsound, hleads⟩, hnext⟩
      refine ⟨plan, hsound, .looks rfl fun s hs => ?_⟩
      rcases hfound s hs with ⟨a, ha, _, hastatus⟩
      rw [ha, hnext a ((a.ensureActive_eq_ok_iff).mpr hastatus)]
      exact hleads
    · refine ⟨.stops (.error (.accountNotActive id status)), trivial, .looks rfl fun s hs => ?_⟩
      rcases hfound s hs with ⟨a, ha, haid, hastatus⟩
      have herror : a.ensureActive = .error (.accountNotActive id status) := by
        unfold Account.ensureActive
        rw [if_neg (hastatus ▸ hst), haid, hastatus]
      rw [ha, hcheck a _ herror]
      exact .done _

/-- A posting. When it is refused the request ends, and otherwise only looks follow. -/
theorem hasPlan_posting {n : Nat} {c : Call} {next : Except LedgerError c.Reply → Program Answer}
    (hc : c.isPosting = true) (hend : ∀ e, next (.error e) = .done (.error e))
    (hlooks : ∀ reply, (next (.ok reply)).OnlyLooks)
    (hsame : ∀ reply events r events' r',
      (next (.ok reply)).Ends statuses moments (n + 1) events r →
        (next (.ok reply)).Ends statuses moments (n + 1) events' r' →
          SameButReadBack events r events' r') :
    HasPlan statuses moments n (.call c next) := by
  -- The plan is the call itself, so what is to be shown is that it is sound, for either answer.
  refine ⟨.commits n c next, ⟨hc, fun r => ?_, fun r events answer events' answer' h h' => ?_⟩,
    .commits c next (Call.isMutating_of_isPosting hc)⟩
  · cases r with
    | error e =>
        rw [hend]
        exact .done _
    | ok reply => exact hlooks reply
  · cases r with
    | error e =>
        rw [hend] at h h'
        rcases Program.ends_done h with ⟨rfl, rfl⟩
        rcases Program.ends_done h' with ⟨rfl, rfl⟩
        exact .same _ _
    | ok reply => exact hsame reply _ _ _ _ h h'

/-- A posting that is followed by an announcement. -/
theorem hasPlan_announced {n : Nat} {c : Call} {next : Except LedgerError c.Reply → Program Answer}
    (hc : c.isPosting = true) (hend : ∀ e, next (.error e) = .done (.error e))
    (hok : ∀ reply, ∃ e r, next (.ok reply) = .announce e (.done r)) :
    HasPlan statuses moments n (.call c next) := by
  refine hasPlan_posting hc hend (fun reply => ?_) fun reply events r events' r' h h' => ?_
  · rcases hok reply with ⟨e, r, hnext⟩
    rw [hnext]
    exact .announce (.done r)
  · rcases hok reply with ⟨e, r, hnext⟩
    rw [hnext] at h h'
    rcases Program.ends_announce_done h with ⟨rfl, rfl⟩
    rcases Program.ends_announce_done h' with ⟨rfl, rfl⟩
    exact .same _ _

/-- What follows a move: the account is read back, and whatever comes of it is announced. -/
def readBack (id : AccountId) : Program Answer :=
  .call (.getAccount id) fun
    | .ok a => .announce (.balanceUpdated a) (.done (.ok (.moved (some a.balances))))
    | .error _ => .done (.ok (.moved none))

theorem onlyLooks_readBack (id : AccountId) : (readBack id).OnlyLooks := by
  refine .looks rfl fun r => ?_
  cases r with
  | error e => exact .done _
  | ok a => exact .announce (.done _)

-- Both looks are taken at the same step, so both fail or both find the account.
theorem ends_readBack {n : Nat} {id : AccountId} {events events' : List Event}
    {r r' : Except LedgerError Answer} (h : (readBack id).Ends statuses moments n events r)
    (h' : (readBack id).Ends statuses moments n events' r') :
    SameButReadBack events r events' r' := by
  rcases Program.ends_call h with ⟨s, hs, hend⟩
  rcases Program.ends_call h' with ⟨s', hs', hend'⟩
  rcases (moments n).answer_getAccount statuses id with ⟨e, he⟩ | ⟨status, _, hfound⟩
  · rw [he s hs] at hend
    rw [he s' hs'] at hend'
    rcases Program.ends_done hend with ⟨rfl, rfl⟩
    rcases Program.ends_done hend' with ⟨rfl, rfl⟩
    exact .same _ _
  · rcases hfound s hs with ⟨a, ha, haid, _⟩
    rcases hfound s' hs' with ⟨b, hb, hbid, _⟩
    rw [ha] at hend
    rw [hb] at hend'
    rcases Program.ends_announce_done hend with ⟨rfl, rfl⟩
    rcases Program.ends_announce_done hend' with ⟨rfl, rfl⟩
    exact .readBack _ (haid.trans hbid.symm)

/-- What is left of a move once the account was found active. -/
def moveActive (id : AccountId) (delta : Decimal) : Program Answer :=
  .call (.applyDelta id delta) fun
    | .ok _ => readBack id
    | .error e => .done (.error e)

-- The program of a move is taken apart here, once, so that its plan is that of `moveActive`.
theorem move_of_active (id : AccountId) (delta : Decimal) {r : Except LedgerError Unit}
    (hr : r = .ok ()) :
    ((Program.ofExcept r >>= fun _ => Program.ask (.applyDelta id delta) >>= fun _ =>
      Program.call (.getAccount id) fun
        | .ok b => .announce (.balanceUpdated b) (pure (some b.balances))
        | .error _ => pure none) >>= fun b => pure (.moved b)) = moveActive id delta := by
  subst hr
  refine congrArg (Program.call (.applyDelta id delta)) (funext fun r => ?_)
  cases r with
  | error e => rfl
  | ok u =>
      refine congrArg (Program.call (.getAccount id)) (funext fun r => ?_)
      cases r <;> rfl

/-- Money that moves. -/
theorem hasPlan_move (n : Nat) (id : AccountId) (delta : Decimal) :
    HasPlan statuses moments n (Ledger.move id delta >>= fun b => pure (.moved b)) := by
  refine hasPlan_account (fun _ => rfl) (fun a e he => ?_) fun _ =>
    ⟨moveActive id delta, ?_, fun a ha => move_of_active id delta ha⟩
  · change ((Program.ofExcept a.ensureActive >>= _) >>= _ : Program Answer) = _
    rw [he]
    rfl
  · exact hasPlan_posting rfl (fun _ => rfl) (fun _ => onlyLooks_readBack id)
      fun _ _ _ _ _ h h' => ends_readBack h h'

/-- A check that needs no store is passed, or the request ends with its error. -/
theorem hasPlan_check {α : Type} {n : Nat} {r : Except LedgerError α} {f : α → Program Answer}
    (h : ∀ a, r = .ok a → HasPlan statuses moments n (f a)) :
    HasPlan statuses moments n (Program.ofExcept r >>= f) := by
  cases r with
  | error e => exact hasPlan_done n (.error e)
  | ok a => exact h a rfl

/-- What is left of setting money aside once the account was found active. -/
def holdActive (request : HoldRequest) (amount : Amount) (now : Instant) : Program Answer :=
  .fresh fun u =>
    let h := Hold.start ⟨u⟩ request.account amount request.reason request.reference
      request.expiresAt now
    .call (.createHold h) fun
      | .ok _ => .announce (.holdCreated h) (.done (.ok (.hold h)))
      | .error e => .done (.error e)

/-- Every request for a posting has a plan. -/
theorem exists_plan (settings : Settings) {r : Request} (hr : r.isPosting = true) :
    HasPlan statuses moments 0 (r.program settings) := by
  cases r with
  | credit id amount =>
      change HasPlan _ _ _ ((Program.ofExcept (Amount.ofDecimal amount) >>= fun x =>
        Ledger.move id x.value) >>= fun b => pure (.moved b))
      rw [Program.bind_assoc]
      exact hasPlan_check fun x _ => hasPlan_move 0 id x.value
  | debit id amount =>
      change HasPlan _ _ _ ((Program.ofExcept (Amount.ofDecimal amount) >>= fun x =>
        Ledger.move id (-x.value)) >>= fun b => pure (.moved b))
      rw [Program.bind_assoc]
      exact hasPlan_check fun x _ => hasPlan_move 0 id (-x.value)
  | createHold request =>
      change HasPlan _ _ _ (Ledger.createHold request >>= fun h => pure (.hold h))
      unfold Ledger.createHold
      simp only [Program.bind_assoc]
      -- The checks that need no store come first, and then the look at the account.
      refine hasPlan_check fun amount _ => hasPlan_check fun _ _ => hasPlan_time ?_
      refine hasPlan_check fun _ _ => ?_
      change HasPlan _ _ _ (.call (.getAccount request.account) _)
      refine hasPlan_account (fun _ => rfl) (fun a e he => ?_) fun _ =>
        ⟨holdActive request amount (moments 0).clock, hasPlan_fresh ?_, fun a ha => ?_⟩
      · change (Program.ofExcept a.ensureActive >>= _ : Program Answer) = _
        rw [he]
        rfl
      · exact hasPlan_announced rfl (fun _ => rfl) fun _ => ⟨_, _, rfl⟩
      · change (Program.ofExcept a.ensureActive >>= _ : Program Answer) = _
        rw [ha]
        refine congrArg Program.fresh (funext fun u => ?_)
        refine congrArg (Program.call _) (funext fun r => ?_)
        cases r <;> rfl
  | releaseHold id =>
      change HasPlan _ _ _ (Program.time >>= fun now => .call (.releaseHold id now) _)
      exact hasPlan_time (hasPlan_announced rfl (fun _ => rfl) fun _ => ⟨_, _, rfl⟩)
  | _ => cases hr

end Request

end BankLedger
