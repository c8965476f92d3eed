import BankLedger.Proofs.Account.Posting
import BankLedger.Proofs.Service.Alone
import BankLedger.Proofs.Service.Request
import BankLedger.Proofs.Store.Change

/-!
# Requests for a Posting

A credit, a debit, a hold and a release each look at some things first and then make the one call
that posts. Run alone, such a request has one of three outcomes. Something speaks against it; or
nothing does, but one of its sums is out of range; or its sums are written. Only the third of these
changes the store.

What speaks against a request is said once, in `Request.Admitted`, by the rows and the numbers it is
about and not by the order in which the program looks at them. So the outcome can be told from the
request and the store alone.

## Main definitions

* `Posting.Served`: What comes of a request for a posting.
* `Request.posting?`: The posting that a request asks for.
* `Request.Admitted`: Nothing speaks against it.

## Theorems

* `served_ask`, `served_bind`, `served_guard`, `served_check`: The steps such programs are made of.
* `moveBy_served`, `createHold_served`, `releaseHold_served`: The programs of the ledger.
* `served`: What comes of a request that runs alone.
-/

namespace BankLedger

open Attempt Decimal

/-- What comes of a request for a posting that runs alone. -/
inductive Posting.Served (p : Posting) (admitted : Prop) (s : Store) {α : Type} :
    Except LedgerError α × World → Prop where
  /-- It is refused for a reason of its own, and nothing is written. -/
  | refused (hadmitted : ¬ admitted) {e : LedgerError} {w : World} (hstore : w.store = s) :
      Served p admitted s (.error e, w)
  /-- It is let through, but one of its sums is out of range, and nothing is written. -/
  | overflowed (hadmitted : admitted) (hrange : p.Overflows) {w : World} (hstore : w.store = s) :
      Served p admitted s (.error p.account.overflow, w)
  /-- It is let through and its sums are written. -/
  | written (hadmitted : admitted) (hrange : ¬ p.Overflows) {answer : α} {w : World} {b : Account}
      (hfound : w.store.accounts.get? p.account.id = some b) (hb : p.WrittenIn b) :
      Served p admitted s (.ok answer, w)

/-- What lets a posting through may be put in other words. -/
theorem Posting.Served.of_iff {p : Posting} {admitted admitted' : Prop} {s : Store} {α : Type}
    {out : Except LedgerError α × World} (h : p.Served admitted s out)
    (hiff : admitted ↔ admitted') : p.Served admitted' s out := propext hiff ▸ h

/-- A request that succeeds was let through, and its sums are in range and written. -/
theorem Posting.Served.of_ok {p : Posting} {admitted : Prop} {s : Store} {α : Type} {answer : α}
    {w : World} (h : p.Served admitted s (.ok answer, w)) : admitted ∧ ¬ p.Overflows ∧
      ∃ b, w.store.accounts.get? p.account.id = some b ∧ p.WrittenIn b := by
  cases h with
  | written hadmitted hrange hfound hb => exact ⟨hadmitted, hrange, _, hfound, hb⟩

/-- A request that fails writes nothing, and if it was let through a sum was out of range. -/
theorem Posting.Served.of_error {p : Posting} {admitted : Prop} {s : Store} {α : Type}
    {e : LedgerError} {w : World} (h : p.Served admitted s ((.error e : Except LedgerError α), w)) :
    w.store = s ∧ (admitted → p.Overflows ∧ e = p.account.overflow) := by
  cases h with
  | refused hadmitted hstore => exact ⟨hstore, fun h => absurd h hadmitted⟩
  | overflowed _ hrange hstore => exact ⟨hstore, fun _ => ⟨hrange, rfl⟩⟩

namespace Program

variable {α β : Type}

/-- The call that carries a posting out is served as the posting comes out. -/
theorem served_ask {p : Posting} {admitted : Prop} {x : Except LedgerError Account} {c : Call}
    {w : World} {answer : Account → c.Reply} {after : Account → Store}
    (houtcome : p.Outcome admitted x)
    (hperform : w.store.perform w.clock c = x.map fun b => (answer b, after b))
    (hafter : ∀ b, p.WrittenIn b → (after b).accounts.get? p.account.id = some b) :
    p.Served admitted w.store ((ask c).runAlone w) := by
  rcases hrun : (ask c).runAlone w with ⟨e | r, w'⟩
  · -- The store refuses only when the account does, and then for the same reason.
    rcases runAlone_ask_eq_error hrun with ⟨hrefused, hstore⟩
    rw [hrefused] at hperform
    cases houtcome with
    | refused hadmitted _ => exact .refused hadmitted hstore
    | overflowed hadmitted hrange =>
        cases hperform
        exact .overflowed hadmitted hrange hstore
    | written _ _ _ => cases hperform
  · rw [runAlone_ask_eq_ok hrun] at hperform
    cases houtcome with
    | refused _ _ => cases hperform
    | overflowed _ _ => cases hperform
    | written hadmitted hrange hb =>
        have hstore : w'.store = after _ := congrArg Prod.snd (Except.ok.inj hperform)
        exact .written hadmitted hrange (hstore ▸ hafter _ hb) hb

/-- What follows the call changes neither the outcome nor the store. -/
theorem served_bind {p : Posting} {admitted : Prop} {s : Store} {x : Program α}
    {f : α → Program β} {w : World} (hx : p.Served admitted s (x.runAlone w))
    (hf : ∀ a v, ∃ b v', (f a).runAlone v = (.ok b, v') ∧ v'.store = v.store) :
    p.Served admitted s ((x >>= f).runAlone w) := by
  rw [runAlone_bind]
  generalize x.runAlone w = out at hx
  cases hx with
  | refused hadmitted hstore => exact .refused hadmitted hstore
  | overflowed hadmitted hrange hstore => exact .overflowed hadmitted hrange hstore
  | @written hadmitted hrange a v b hfound hb =>
      rcases hf a v with ⟨answer, v', hrun, hsame⟩
      change p.Served admitted s ((f a).runAlone v)
      rw [hrun]
      exact .written hadmitted hrange (hsame ▸ hfound) hb

/-- What is asked for beforehand is one more reason to refuse. -/
theorem served_guard {p : Posting} {condition admitted : Prop} {s : Store}
    {out : Except LedgerError α × World} (hmet : condition → p.Served admitted s out)
    (hunmet : ¬ condition → ∃ e w, out = (.error e, w) ∧ w.store = s) :
    p.Served (condition ∧ admitted) s out := by
  by_cases hcondition : condition
  · exact (hmet hcondition).of_iff (and_iff_right hcondition).symm
  · rcases hunmet hcondition with ⟨e, w, rfl, hstore⟩
    exact .refused (fun h => hcondition h.1) hstore

/-- A check before the call is passed or refuses the request. -/
theorem served_check {p : Posting} {admitted : Prop} {s : Store} {r : Except LedgerError α}
    {f : α → Program β} {w : World} (hstore : w.store = s)
    (hf : ∀ a, r = .ok a → p.Served admitted s ((f a).runAlone w)) :
    p.Served ((∃ a, r = .ok a) ∧ admitted) s ((ofExcept r >>= f).runAlone w) := by
  unfold ofExcept
  rw [runAlone_bind, runAlone_done]
  refine served_guard ?_ ?_
  · rintro ⟨a, rfl⟩
    exact hf a rfl
  · intro hfails
    cases r with
    | error e => exact ⟨e, w, rfl, hstore⟩
    | ok a => exact absurd ⟨a, rfl⟩ hfails

/-- A call that the store refuses ends the request. -/
theorem refused_ask_bind {c : Call} {f : c.Reply → Program α} {w : World} {e : LedgerError}
    (h : w.store.perform w.clock c = .error e) :
    ∃ e w', (ask c >>= f).runAlone w = (.error e, w') ∧ w'.store = w.store := by
  rcases hrun : (ask c).runAlone w with ⟨e' | r, w'⟩
  · refine ⟨e', w', ?_, (runAlone_ask_eq_error hrun).2⟩
    rw [runAlone_bind, hrun]
  · rw [runAlone_ask_eq_ok hrun] at h
    cases h

end Program

namespace Ledger

open Program

theorem runAlone_account {w : World} {id : AccountId} {a : Account}
    (ha : w.store.accounts.get? id = some a) : (account id).runAlone w = (.ok a, w.tick.2) := by
  have hperform : w.store.perform w.clock (.getAccount id) = .ok (a, w.store) := by
    change (w.store.account id).map _ = _
    rw [(Store.account_eq_ok_iff _ _ _).mpr ha]
    rfl
  refine (runAlone_call _ _ _).trans ?_
  unfold World.ask
  simp only [World.tick, hperform]
  rfl

/-- Money moves on an active account, as far as the balance allows. -/
theorem move_served {w : World} {id : AccountId} {a : Account}
    (ha : w.store.accounts.get? id = some a) (delta : Decimal) :
    (Posting.move a delta).Served
      ((∃ u, a.ensureActive = .ok u) ∧ 0 ≤ (Posting.move a delta).sum Account.balance)
      w.store ((move id delta).runAlone w) := by
  have hid : a.id = id := Table.key_of_get? ha
  unfold move
  rw [runAlone_bind, runAlone_account ha]
  refine served_check rfl fun _ _ => served_bind (served_ask (w := w.tick.2)
    (a.applyDelta_outcome delta _) (Store.perform_applyDelta ha delta _) ?_) ?_
  · intro b hb
    exact (Store.get?_setAccount ha hb.1 a.id).trans (if_pos hid.symm)
  · -- The account is read back, and whether that succeeds or not the answer is no error.
    intro _ v
    have hstore : (v.ask (.getAccount id)).2.store = v.store := by
      rw [World.store_ask, Store.after_of_looking rfl]
    rw [runAlone_call]
    cases (v.ask (.getAccount id)).1 with
    | ok b => exact ⟨_, _, rfl, hstore⟩
    | error e => exact ⟨_, _, rfl, hstore⟩

/-- A check that has nothing to answer is passed when it answers that. -/
theorem exists_eq_ok_unit (r : Except LedgerError Unit) : (∃ u, r = .ok u) ↔ r = .ok () :=
  ⟨fun ⟨_, h⟩ => h, fun h => ⟨_, h⟩⟩

theorem exists_amount_iff (x : Decimal) :
    (∃ amount, Amount.ofDecimal x = .ok amount) ↔ 0 < x.toRat := by
  simp only [Amount.ofDecimal_eq_ok_iff, exists_and_left, and_iff_left_iff_imp]
  exact fun _ => ⟨⟨x⟩, rfl⟩

/-- The amount is checked first, and then money moves by it, in one direction or the other. -/
theorem moveBy_served {w : World} {id : AccountId} {a : Account}
    (ha : w.store.accounts.get? id = some a) (amount : Decimal) (delta : Decimal → Decimal) :
    (Posting.move a (delta amount)).Served
      (0 < amount.toRat ∧ a.status = .active ∧
        0 ≤ (Posting.move a (delta amount)).sum Account.balance)
      w.store ((Program.ofExcept (Amount.ofDecimal amount) >>= fun x =>
        move id (delta x.value)).runAlone w) := by
  have hchecked := served_check (w := w) (f := fun x => move id (delta x.value))
    (r := Amount.ofDecimal amount) rfl fun x hx => by
      rw [((Amount.ofDecimal_eq_ok_iff _ _).mp hx).2]
      exact move_served ha (delta amount)
  refine hchecked.of_iff ?_
  simp only [exists_amount_iff, exists_eq_ok_unit, Account.ensureActive_eq_ok_iff]

/-- A hold is added under a free identifier, as far as its amount is available. -/
theorem addHold_served {w : World} {h : Hold} {a : Account}
    (ha : w.store.accounts.get? h.account = some a) :
    (Posting.aside a (-h.amount.value)).Served
      (w.store.holds.get? h.id = none ∧
        0 ≤ (Posting.aside a (-h.amount.value)).sum Account.available)
      w.store ((ask (.createHold h) >>= fun _ => emit (.holdCreated h) >>= fun _ =>
        pure h).runAlone w) := by
  refine served_guard (fun hfree => ?_) (fun htaken => ?_)
  · rcases Table.exists_insert? hfree with ⟨holds, hholds⟩
    refine served_bind (served_ask (a.reserve_outcome h.amount _)
      (Store.perform_createHold ha hholds _) ?_) fun _ v => ⟨_, _, rfl, rfl⟩
    intro b hb
    exact (Store.get?_setAccount ha hb.1 a.id).trans (if_pos (Table.key_of_get? ha).symm)
  · -- The account is there, so what the store finds in the way is the other hold.
    refine refused_ask_bind (e := .alreadyExists (.hold h.id)) ?_
    have hnone : w.store.holds.insert? h = none :=
      (Table.insert?_eq_none_iff _ _).mpr (Option.ne_none_iff_exists'.mp htaken)
    change (w.store.createHold h _).map _ = _
    unfold Store.createHold
    rw [(Store.account_eq_ok_iff _ _ a).mpr ha, ok_bind, hnone]
    rfl

/-- Money is set aside on an active account, as far as it is available. The identifier of the hold
    is made after the clock was read for the hold and for the account. -/
theorem createHold_served {w : World} {request : HoldRequest} {a : Account}
    (ha : w.store.accounts.get? request.account = some a) :
    (Posting.aside a (-request.amount)).Served
      ((∃ x, Amount.ofDecimal request.amount = .ok x) ∧ (∃ u, checkReason request.reason = .ok u) ∧
        (∃ u, checkExpiry w.clock request.expiresAt = .ok u) ∧ (∃ u, a.ensureActive = .ok u) ∧
        w.store.holds.get? ⟨w.tick.2.tick.2.fresh.1⟩ = none ∧
        0 ≤ (Posting.aside a (-request.amount)).sum Account.available)
      w.store ((createHold request).runAlone w) := by
  unfold createHold
  refine served_check rfl fun amount hamount => served_check rfl fun _ _ => ?_
  have hvalue := ((Amount.ofDecimal_eq_ok_iff _ _).mp hamount).2
  rw [runAlone_time_bind]
  refine served_check rfl fun _ _ => ?_
  rw [runAlone_bind, runAlone_account (w := w.tick.2) ha]
  refine served_check rfl fun _ _ => ?_
  -- The clock was read twice by now, so the identifier is the one that is made then.
  rw [runAlone_freshId_bind, ← hvalue]
  exact addHold_served (w := w.tick.2.tick.2.fresh.2)
    (h := .start ⟨w.tick.2.tick.2.fresh.1⟩ request.account amount request.reason request.reference
      request.expiresAt w.clock) ha

/-- Money is given back from an active hold. -/
theorem releaseHold_served {w : World} {id : HoldId} {h : Hold} {a : Account}
    (hh : w.store.holds.get? id = some h) (ha : w.store.accounts.get? h.account = some a) :
    (Posting.aside a h.amount.value).Served (h.isActive = true ∧ True) w.store
      ((releaseHold id).runAlone w) := by
  change Posting.Served _ _ _ ((ask (.releaseHold id w.clock) >>= fun g : Hold =>
    emit (.holdReleased g) >>= fun _ => pure g).runAlone w.tick.2)
  refine served_guard (fun hactive => ?_) (fun hspent => ?_)
  · refine served_bind (served_ask (w := w.tick.2) (a.restore_outcome h.amount _)
      (Store.perform_releaseHold hh ha hactive _ _) ?_) fun _ v => ⟨_, _, rfl, rfl⟩
    intro b hb
    exact (Store.get?_setAccount ha hb.1 a.id).trans (if_pos (Table.key_of_get? ha).symm)
  · refine refused_ask_bind (w := w.tick.2) (e := .alreadyReleased id) ?_
    change w.store.releaseHold id _ = _
    unfold Store.releaseHold Hold.markReleased
    rw [(Store.hold_eq_ok_iff _ _ h).mpr hh, ok_bind, (Store.account_eq_ok_iff _ _ a).mpr ha,
      ok_bind, if_neg hspent]
    rfl

/-- A hold that was created is in the store, active, with the amount that was asked for. -/
theorem hold_of_createHold {w w' : World} {request : HoldRequest} {h : Hold}
    (hrun : (createHold request).runAlone w = (.ok h, w')) :
    w'.store.holds.get? h.id = some h ∧ h.account = request.account ∧
      h.amount.value = request.amount ∧ h.isActive = true := by
  unfold createHold at hrun
  -- Of the steps before the call only the one that makes the amount is needed.
  rcases (runAlone_bind_eq_ok_iff _ _ _ _ _).mp hrun with ⟨amount, w1, hamount, hrun⟩
  rcases (runAlone_bind_eq_ok_iff _ _ _ _ _).mp hrun with ⟨_, w2, _, hrun⟩
  rw [runAlone_time_bind] at hrun
  rcases (runAlone_bind_eq_ok_iff _ _ _ _ _).mp hrun with ⟨_, w3, _, hrun⟩
  rcases (runAlone_bind_eq_ok_iff _ _ _ _ _).mp hrun with ⟨a, w4, _, hrun⟩
  rcases (runAlone_bind_eq_ok_iff _ _ _ _ _).mp hrun with ⟨_, w5, _, hrun⟩
  rw [runAlone_freshId_bind] at hrun
  rcases (runAlone_bind_eq_ok_iff _ _ _ _ _).mp hrun with ⟨_, w6, hadded, hrun⟩
  have heffect := Store.effect_of_perform (runAlone_ask_eq_ok hadded)
  cases hrun
  have hvalue : amount.value = request.amount := by
    unfold Program.ofExcept at hamount
    rw [runAlone_done, Prod.mk.injEq] at hamount
    exact ((Amount.ofDecimal_eq_ok_iff _ _).mp hamount.1).2
  refine ⟨?_, rfl, hvalue, rfl⟩
  rw [World.store_announce]
  exact heffect.held_found

end Ledger

namespace Request

open Program

/-- The posting that a request asks for, when the account is there. -/
def posting? (s : Store) : Request → Option Posting
  | .credit id amount => (s.accounts.get? id).map (.move · amount)
  | .debit id amount => (s.accounts.get? id).map (.move · (-amount))
  | .createHold request => (s.accounts.get? request.account).map (.aside · (-request.amount))
  | .releaseHold id => (s.holds.get? id).bind fun h =>
      (s.accounts.get? h.account).map (.aside · h.amount.value)
  | _ => none

theorem posting?_createHold_eq_some {s : Store} {request : HoldRequest} {p : Posting}
    (hp : (createHold request).posting? s = some p) :
    ∃ a, s.accounts.get? request.account = some a ∧ .aside a (-request.amount) = p :=
  Option.map_eq_some_iff.mp hp

/-- Nothing speaks against a posting, except that its sums may be out of range. -/
def Admitted (w : World) (p : Posting) : Request → Prop
  | .credit _ amount => 0 < amount.toRat ∧ p.account.status = .active ∧ 0 ≤ p.sum Account.balance
  | .debit _ amount => 0 < amount.toRat ∧ p.account.status = .active ∧ 0 ≤ p.sum Account.balance
  | .createHold request => 0 < request.amount.toRat ∧ Ledger.checkReason request.reason = .ok () ∧
      Ledger.checkExpiry w.clock request.expiresAt = .ok () ∧ p.account.status = .active ∧
      w.store.holds.get? ⟨w.tick.2.tick.2.fresh.1⟩ = none ∧ 0 ≤ p.sum Account.available
  | .releaseHold id => ∃ h, w.store.holds.get? id = some h ∧ h.isActive = true
  | _ => False

/-- What comes of a request that runs alone. -/
theorem served (settings : Settings) {w : World} {r : Request} {p : Posting}
    (hp : r.posting? w.store = some p) :
    p.Served (r.Admitted w p) w.store ((r.program settings).runAlone w) := by
  cases r with
  | credit id amount =>
      rcases Option.map_eq_some_iff.mp hp with ⟨a, ha, rfl⟩
      exact served_bind (Ledger.moveBy_served ha amount fun x => x) fun _ v => ⟨_, _, rfl, rfl⟩
  | debit id amount =>
      rcases Option.map_eq_some_iff.mp hp with ⟨a, ha, rfl⟩
      exact served_bind (Ledger.moveBy_served ha amount fun x => -x) fun _ v => ⟨_, _, rfl, rfl⟩
  | createHold request =>
      rcases posting?_createHold_eq_some hp with ⟨a, ha, rfl⟩
      refine served_bind ((Ledger.createHold_served ha).of_iff ?_) fun _ v => ⟨_, _, rfl, rfl⟩
      simp only [Ledger.exists_amount_iff, Ledger.exists_eq_ok_unit, Account.ensureActive_eq_ok_iff]
      rfl
  | releaseHold id =>
      rcases Option.bind_eq_some_iff.mp hp with ⟨h, hh, hp⟩
      rcases Option.map_eq_some_iff.mp hp with ⟨a, ha, rfl⟩
      refine served_bind ((Ledger.releaseHold_served hh ha).of_iff ?_) fun _ v => ⟨_, _, rfl, rfl⟩
      simp only [Admitted, hh, Option.some.injEq, exists_eq_left', and_true]
  | _ => cases hp

end Request

end BankLedger
