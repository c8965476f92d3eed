import BankLedger.Proofs.Event
import Mathlib.Logic.Function.Basic

/-!
# Following the Events

Somebody who has never seen the store follows the events, and keeps for every account its status,
its balance and the holds on it.

What is kept in this way is to be compared with what others know. The two are allowed to differ in
the status of some accounts, because a status can be set without an event. Everything else has to
agree, and goes on to agree when both sides make the same change.

## Main definitions

* `View`: What is known of an account.
* `Projection`: What is known of all accounts.
* `Projection.apply`, `Projection.ofEvents`: One event is followed, and all of them.
* `Projection.Agrees`: The same is known, but for the status of some accounts.

## Theorems

* `Agrees.change`: The same change on both sides.
* `apply_accountCreated`, `apply_balanceUpdated`, `apply_statusChanged`, `apply_holdCreated`,
  `apply_holdReleased`: What is learned from each event.
-/

namespace BankLedger

/-- The status that an account has after an action. -/
def Action.target : Action → Status
  | .freeze => .frozen
  | .unfreeze => .active
  | .close => .closed

/-- What is known of an account. -/
structure View where
  status : Status
  balance : Decimal
  /-- The amount of each hold that is not released. -/
  holds : HoldId → Option Decimal

namespace View

/-- A new account is active and empty, and there is no hold on it. -/
def opened : View := ⟨.active, .zero, fun _ => none⟩

def withBalance (balance : Decimal) (v : View) : View := { v with balance := balance }

def withStatus (status : Status) (v : View) : View := { v with status := status }

/-- A hold is put on the account or taken off. -/
def withHold (id : HoldId) (amount : Option Decimal) (v : View) : View :=
  { v with holds := Function.update v.holds id amount }

/-- The same is known of an account; the status counts only if it is told. -/
structure Same (told : Prop) (v v' : View) : Prop where
  balance : v.balance = v'.balance
  holds : v.holds = v'.holds
  status : told → v.status = v'.status

section Same

variable {told : Prop} {v v' : View}

theorem Same.withBalance (h : Same told v v') (balance : Decimal) :
    Same told (v.withBalance balance) (v'.withBalance balance) := ⟨rfl, h.holds, h.status⟩

theorem Same.withStatus (h : Same told v v') (status : Status) :
    Same told (v.withStatus status) (v'.withStatus status) := ⟨h.balance, h.holds, fun _ => rfl⟩

theorem Same.withHold (h : Same told v v') (id : HoldId) (amount : Option Decimal) :
    Same told (v.withHold id amount) (v'.withHold id amount) where
  balance := h.balance
  holds := by
    change Function.update v.holds id amount = Function.update v'.holds id amount
    rw [h.holds]
  status := h.status

/-- The status is set on one side only. -/
theorem Same.withStatus_right (h : Same told v v') (status : Option Status)
    (htold : status ≠ none → ¬ told) :
    Same told v (v'.withStatus (status.getD v'.status)) where
  balance := h.balance
  holds := h.holds
  status ht := by
    cases status with
    | none => exact h.status ht
    | some status => exact absurd ht (htold (by simp))

end Same

end View

/-- What is known of all accounts. -/
abbrev Projection := AccountId → Option View

namespace Projection

/-- What is known of one account changes. -/
def change (p : Projection) (id : AccountId) (f : View → View) : Projection :=
  Function.update p id ((p id).map f)

/-- One event is followed. What cannot be read is passed over. -/
def apply (p : Projection) (e : Event) : Projection :=
  match e.kind with
  | .accountCreated => Function.update p e.account (some .opened)
  | .balanceUpdated => match e.balance? with
    | some balance => p.change e.account (View.withBalance balance)
    | none => p
  | .accountFrozen => p.change e.account (View.withStatus .frozen)
  | .accountUnfrozen => p.change e.account (View.withStatus .active)
  | .accountClosed => p.change e.account (View.withStatus .closed)
  | .holdCreated => match e.hold?, e.amount? with
    | some id, some amount => p.change e.account (View.withHold id (some amount))
    | _, _ => p
  | .holdReleased => match e.hold? with
    | some id => p.change e.account (View.withHold id none)
    | none => p

/-- All events are followed, the first one first, from nothing. -/
def ofEvents (events : List Event) : Projection := events.foldl apply fun _ => none

section Apply

variable (p : Projection) (made : Uuid) (now : Instant)

theorem apply_accountCreated (a : Account) :
    p.apply ((Notice.accountCreated a).toEvent made now)
      = Function.update p a.id (some .opened) := rfl

theorem apply_balanceUpdated {a : Account} (h : a.balance.IsPlain) :
    p.apply ((Notice.balanceUpdated a).toEvent made now)
      = p.change a.id (View.withBalance a.balance) := by
  unfold apply
  rw [Event.balance?_balanceUpdated made now h]
  rfl

theorem apply_statusChanged (action : Action) (a : Account) :
    p.apply ((Notice.statusChanged (.ofAction action) a).toEvent made now)
      = p.change a.id (View.withStatus action.target) := by
  cases action with
  | freeze | unfreeze | close => rfl

theorem apply_holdCreated {h : Hold} (hplain : h.amount.value.IsPlain) :
    p.apply ((Notice.holdCreated h).toEvent made now)
      = p.change h.account (View.withHold h.id (some h.amount.value)) := by
  unfold apply
  rw [Event.hold?_holdCreated made now h, Event.amount?_holdCreated made now hplain]
  rfl

theorem apply_holdReleased (h : Hold) :
    p.apply ((Notice.holdReleased h).toEvent made now)
      = p.change h.account (View.withHold h.id none) := by
  unfold apply
  rw [Event.hold?_holdReleased made now h]
  rfl

end Apply

/-- The same is known on both sides; the status of an account counts only if it is told. -/
def Agrees (told : AccountId → Prop) (p q : Projection) : Prop :=
  ∀ id, Option.Rel (View.Same (told id)) (p id) (q id)

variable {told : AccountId → Prop} {p q : Projection}

theorem Agrees.update (h : p.Agrees told q) (id : AccountId) (v : Option View) :
    Agrees told (Function.update p id v) (Function.update q id v) := by
  intro k
  by_cases hk : k = id
  · subst hk
    simp only [Function.update_self]
    cases v with
    | none => exact .none
    | some v => exact .some ⟨rfl, rfl, fun _ => rfl⟩
  · simp only [Function.update_of_ne hk]
    exact h k

theorem change_id (p : Projection) (id : AccountId) : p.change id (fun v => v) = p := by
  unfold Projection.change
  rw [Option.map_id', Function.update_eq_self]

/-- The same change on both sides. -/
theorem Agrees.change (h : p.Agrees told q) {id : AccountId} {f g : View → View}
    (hfg : ∀ v v', View.Same (told id) v v' → View.Same (told id) (f v) (g v')) :
    Agrees told (p.change id f) (q.change id g) := by
  intro k
  unfold Projection.change
  by_cases hk : k = id
  · subst hk
    simp only [Function.update_self]
    have hk := h k
    generalize p k = v, q k = v' at hk ⊢
    cases hk with
    | some hsame => exact .some (hfg _ _ hsame)
    | none => exact .none
  · simp only [Function.update_of_ne hk]
    exact h k

end Projection

end BankLedger
