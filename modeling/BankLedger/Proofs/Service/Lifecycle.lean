import BankLedger.Proofs.Decimal.Value
import BankLedger.Proofs.Service.Conduct
import BankLedger.Proofs.Service.Exact
import BankLedger.Proofs.Store.Change

/-!
# The Life of an Account

Two calls write a status: the one that freezes, unfreezes and closes, and the one that sets status
and rate. Both decide on the row as it is at that moment, so it does not matter what a request has
seen before, or what else is under way. Requests may therefore cross in any way, and the status of
an account still moves along a few edges only. There is no way out of the closed status, and only
the edge into it stamps the time of closing.

## Main definitions

* `Life`: What a call does to the status of an account.
* `StatusMove`: An edge along which a status moves, and the request that moves it.
* `ClosingDated`: The accounts with a time of closing are the closed ones.

## Theorems

* `Change.life`: What every call does to the status.
* `Life.of_closed`, `Life.dated`, `Life.statusMove`: What follows for a row.
* `Conducted.account_step`: What one turn of a request does to a row.
* `closed_run`: Once closed, always closed.
* `lifecycle`: All of it, for every schedule.
-/

namespace BankLedger

namespace Store

/-- What a call does to the status of the account that it is about, to its time of closing, and to
    its rate if it is closed. -/
inductive Life : Call → Account → Account → Prop where
  | stayed {c : Call} {a b : Account} (hstatus : b.status = a.status)
      (hdate : b.closedAt = a.closedAt) (hrate : a.status = .closed → b.rate = a.rate) : Life c a b
  | frozen {id : AccountId} {time : Instant} {a b : Account} (ha : a.status = .active)
      (hb : b.status = .frozen) (hdate : b.closedAt = a.closedAt) :
      Life (.changeStatus id .freeze time) a b
  | unfrozen {id : AccountId} {time : Instant} {a b : Account} (ha : a.status = .frozen)
      (hb : b.status = .active) (hdate : b.closedAt = a.closedAt) :
      Life (.changeStatus id .unfreeze time) a b
  /-- The balance is looked at on the row that is closed. -/
  | closed {id : AccountId} {time : Instant} {a b : Account}
      (ha : a.status = .active ∨ a.status = .frozen) (hbalance : a.balance.toRat = 0)
      (hb : b.status = .closed) (hdate : b.closedAt.isSome = true) (hsame : b.balance = a.balance) :
      Life (.changeStatus id .close time) a b
  | set {id : AccountId} {status : Status} {rate : Option Decimal} {a b : Account}
      (ha : a.status ≠ .closed) (hstatus : status ≠ .closed) (hb : b.status = status)
      (hdate : b.closedAt = a.closedAt) : Life (.amend id (some status) rate) a b

variable {now : Instant} {c : Call} {a b : Account}

/-- What every call does to the status. -/
theorem Change.life (h : Change now c a b) : Life c a b := by
  have hwrites := h.writes
  cases h with
  | @amended id status rate _ _ hb =>
      rcases (Account.amend_eq_ok_iff _ _ _ _ _).mp hb with ⟨hopen, hstatus, rfl⟩
      cases status with
      | none => exact .stayed rfl rfl fun hclosed => absurd hclosed hopen
      | some status => exact .set hopen (fun h => hstatus (congrArg some h)) rfl rfl
  | @acted id action time _ _ hb =>
      rcases (Account.apply_eq_ok_iff _ _ _ _).mp hb with ⟨status, hstatus, rfl⟩
      have hedge := (Account.transition_eq_ok_iff _ _ _).mp hstatus
      cases action with
      | freeze =>
          rcases hedge with ⟨ha, rfl⟩
          exact .frozen ha rfl rfl
      | unfreeze =>
          rcases hedge with ⟨ha, rfl⟩
          exact .unfrozen ha rfl rfl
      | close =>
          rcases hedge with ⟨ha, hzero, rfl⟩
          exact .closed ha ((Decimal.isZero_iff _).mp hzero) rfl rfl rfl
  | moved | held | released =>
      exact .stayed (congrArg Account.status hwrites).symm (congrArg Account.closedAt hwrites).symm
        fun _ => (congrArg Account.rate hwrites).symm

/-- What a closed account keeps for ever. -/
structure Ended (a b : Account) : Prop where
  closed : b.status = .closed
  closedAt_eq : b.closedAt = a.closedAt
  rate_eq : b.rate = a.rate

theorem Ended.trans {a b b' : Account} (h : Ended a b) (h' : Ended b b') : Ended a b' :=
  ⟨h'.closed, h'.closedAt_eq.trans h.closedAt_eq, h'.rate_eq.trans h.rate_eq⟩

theorem Life.of_closed (h : Life c a b) (ha : a.status = .closed) : Ended a b := by
  cases h with
  | stayed hstatus hdate hrate => exact ⟨hstatus.trans ha, hdate, hrate ha⟩
  | frozen hactive _ _ => rw [ha] at hactive; cases hactive
  | unfrozen hfrozen _ _ => rw [ha] at hfrozen; cases hfrozen
  | closed hopen _ _ _ _ => rw [ha] at hopen; rcases hopen with hopen | hopen <;> cases hopen
  | set hopen _ _ _ => exact absurd ha hopen

theorem Life.dated (h : Life c a b) (ha : a.closedAt.isSome = true ↔ a.status = .closed) :
    b.closedAt.isSome = true ↔ b.status = .closed := by
  cases h with
  | stayed hstatus hdate _ => rw [hstatus, hdate, ha]
  | frozen hactive hb hdate => rw [hb, hdate, ha, hactive]; simp only [reduceCtorEq]
  | unfrozen hfrozen hb hdate => rw [hb, hdate, ha, hfrozen]; simp only [reduceCtorEq]
  | closed _ _ hb hdate _ => exact iff_of_true hdate hb
  | set hopen hstatus hb hdate =>
      rw [hb, hdate, ha]
      exact iff_of_false hopen hstatus

end Store

open Store

/-- An edge along which the status of an account moves, and the request that moves it. -/
inductive StatusMove : Request → Account → Account → Prop where
  | frozen {a b : Account} (ha : a.status = .active) (hb : b.status = .frozen) :
      StatusMove (.changeStatus .freeze a.id) a b
  | unfrozen {a b : Account} (ha : a.status = .frozen) (hb : b.status = .active) :
      StatusMove (.changeStatus .unfreeze a.id) a b
  /-- The account is closed directly, or by setting its status. -/
  | closed {r : Request} {a b : Account}
      (hr : r = .changeStatus .close a.id ∨ r = .update a.id (some .closed) none)
      (ha : a.status = .active ∨ a.status = .frozen) (hbalance : a.balance.toRat = 0)
      (hb : b.status = .closed) : StatusMove r a b
  | set {status : Status} {rate : Option Decimal} {a b : Account} (ha : a.status ≠ .closed)
      (hstatus : status ≠ .closed) (hb : b.status = status) :
      StatusMove (.update a.id (some status) rate) a b

/-- A call that moves the status is the call of a request that is there to move it. -/
theorem Store.Life.statusMove {settings : Settings} {r : Request} {s : Store} {c : Call}
    {a b : Account} (h : Life c a b) (hfulfilled : r.FulfilledBy settings c)
    (habout : s.about c = some a.id) (hmoved : b.status ≠ a.status) : StatusMove r a b := by
  cases h with
  | stayed hstatus _ _ => exact absurd hstatus hmoved
  | frozen ha hb _ =>
      cases habout
      cases hfulfilled with
      | acted => exact .frozen ha hb
  | unfrozen ha hb _ =>
      cases habout
      cases hfulfilled with
      | acted => exact .unfrozen ha hb
  | closed ha hbalance hb _ _ =>
      cases habout
      cases hfulfilled with
      | acted => exact .closed (Or.inl rfl) ha hbalance hb
      | closed => exact .closed (Or.inr rfl) ha hbalance hb
  | set ha hstatus hb _ =>
      cases habout
      cases hfulfilled with
      | amended _ _ => exact .set ha hstatus hb

/-- The accounts with a time of closing are the closed ones. -/
def Store.ClosingDated (s : Store) : Prop :=
  ∀ id a, s.accounts.get? id = some a → (a.closedAt.isSome = true ↔ a.status = .closed)

namespace Chronicle

variable {ι : Type} [DecidableEq ι] {settings : Settings} {requests : ι → Request}
  {x : Chronicle ι}

/-- A turn of a request leaves a row as it is, or makes the change that the request is after. -/
theorem Conducted.account_step (h : x.Conducted settings requests) (moments : ι → Nat → Moment)
    (i : ι) {id : AccountId} {a : Account} (ha : x.store.accounts.get? id = some a) :
    ∃ b, (x.step moments i).store.accounts.get? id = some b ∧ (b = a ∨ ∃ time c,
      (requests i).FulfilledBy settings c ∧ x.store.about c = some id ∧ Change time c a b) := by
  rcases h.step_cases moments i with ⟨_, hsame⟩ | ⟨time, c, _, _, heffect, hfulfilled, _, _⟩
  · rw [hsame]
    exact ⟨a, ha, Or.inl rfl⟩
  · rcases heffect.account_step ha with ⟨b, hb, hsame | ⟨hchange, habout⟩⟩
    · exact ⟨b, hb, Or.inl hsame⟩
    · exact ⟨b, hb, Or.inr ⟨time, c, hfulfilled, habout, hchange⟩⟩

theorem Conducted.dated_step (h : x.Conducted settings requests) (moments : ι → Nat → Moment)
    (i : ι) (hx : x.store.ClosingDated) : (x.step moments i).store.ClosingDated := by
  rcases h.step_cases moments i with ⟨_, hsame⟩ | ⟨time, c, _, _, heffect, hfulfilled, _, _⟩
  · exact hsame ▸ hx
  · intro id b hb
    rcases heffect.account_cases hb with hnew | hold | ⟨a, ha, hchange⟩
    · -- A request opens accounts active and without a time of closing.
      subst hnew
      rcases hfulfilled.bringsNew with ⟨_, _, _, _, _, _, _, rfl⟩
      exact iff_of_false nofun nofun
    · exact hx id b hold
    · exact hchange.life.dated (hx id a ha)

-- By induction on the schedule. Of the closed account only what it keeps is handed on.
/-- Once closed, always closed. -/
theorem Conducted.closed_run (h : x.Conducted settings requests) (moments : ι → Nat → Moment)
    (schedule : List ι) {id : AccountId} {a : Account} (ha : x.store.accounts.get? id = some a)
    (hclosed : a.status = .closed) :
    ∃ b, (x.run moments schedule).store.accounts.get? id = some b ∧ Ended a b := by
  induction schedule generalizing x a with
  | nil => exact ⟨a, ha, hclosed, rfl, rfl⟩
  | cons i schedule ih =>
      rcases h.account_step moments i ha with ⟨b, hb, hcase⟩
      have hended : Ended a b := by
        rcases hcase with rfl | ⟨_, _, _, _, hchange⟩
        · exact ⟨hclosed, rfl, rfl⟩
        · exact hchange.life.of_closed hclosed
      rcases ih (h.step moments i) hb hended.closed with ⟨b', hb', hended'⟩
      exact ⟨b', hb', hended.trans hended'⟩

/-- However requests are interleaved, and whichever calls the store refuses: the accounts with a
    time of closing are the closed ones, the status of an account moves only as the request whose
    turn it is was meant to move it, and a closed account keeps its status, its time of closing and
    its rate. -/
theorem lifecycle (settings : Settings) (w : World) (hw : w.store.ClosingDated)
    (requests : ι → Request) (moments : ι → Nat → Moment) (schedule : List ι) {x : Chronicle ι}
    (hx : x = (start settings w requests).run moments schedule) :
    x.store.ClosingDated ∧ ∀ id a, x.store.accounts.get? id = some a →
      (∀ i, ∃ b, (x.step moments i).store.accounts.get? id = some b ∧
        (b.status ≠ a.status → StatusMove (requests i) a b)) ∧
      (a.status = .closed → ∀ later, ∃ b,
        (x.run moments later).store.accounts.get? id = some b ∧ Ended a b) := by
  subst hx
  have hconducted (schedule : List ι) : ((start settings w requests).run moments schedule).Conducted
      settings requests := conducted_run w moments schedule
  refine ⟨?_, fun id a ha => ⟨fun i => ?_, fun hclosed later => ?_⟩⟩
  · refine (run_induction (P := fun x => x.Conducted settings requests ∧ x.store.ClosingDated)
      moments ?_ ⟨conducted_start w, hw⟩ schedule).2
    exact fun x i h => ⟨h.1.step moments i, h.1.dated_step moments i h.2⟩
  · rcases (hconducted schedule).account_step moments i ha with
      ⟨b, hb, rfl | ⟨_, c, hfulfilled, habout, hchange⟩⟩
    · exact ⟨b, hb, fun hmoved => absurd rfl hmoved⟩
    · exact ⟨b, hb, hchange.life.statusMove hfulfilled (Table.key_of_get? ha ▸ habout)⟩
  · exact (hconducted schedule).closed_run moments later ha hclosed

/-- An account is closed, which is marked with `true`, while another request freezes it. -/
def closingFrozen (schedule : List Bool) : Chronicle Bool :=
  (start .default (Request.ledgerWith .zero) fun closing =>
    if closing then .changeStatus .close default else .update default (some .frozen) none).run
      (fun _ _ => ⟨.epoch, 0, 0, none⟩) schedule

/-- The closing has begun before the account is frozen, and closes it from there. -/
theorem closingFrozen_lifecycle : ∃ a b,
    (closingFrozen [true, false]).store.accounts.get? default = some a ∧
    (closingFrozen [true, false, true]).store.accounts.get? default = some b ∧
    a.status = .frozen ∧ b.status = .closed ∧ StatusMove (.changeStatus .close default) a b := by
  have hdated : ∀ a ∈ (Request.ledgerWith .zero).store.accounts.rows,
      (a.closedAt.isSome = true ↔ a.status = .closed) := by decide +kernel
  have hbefore : ∀ a ∈ (closingFrozen [true, false]).store.accounts.get? default,
      a.status = .frozen := by decide +kernel
  have hafter : ∀ b ∈ (closingFrozen [true, false, true]).store.accounts.get? default,
      b.status = .closed := by decide +kernel
  rcases ha : (closingFrozen [true, false]).store.accounts.get? default with _ | a
  · exact absurd ha (by decide +kernel)
  · rcases (lifecycle .default (Request.ledgerWith .zero)
      (fun id a ha => hdated a (Table.mem_of_get? ha)) _ _ [true, false] rfl).2 default a ha with
      ⟨hstep, _⟩
    rcases hstep true with ⟨b, hb, hmove⟩
    have hfrozen := hbefore a ha
    have hclosed := hafter b hb
    refine ⟨a, b, rfl, hb, hfrozen, hclosed, hmove ?_⟩
    rw [hfrozen, hclosed]
    exact nofun

end Chronicle

end BankLedger
