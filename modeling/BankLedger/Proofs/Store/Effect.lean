import BankLedger.Proofs.Account.Update
import BankLedger.Proofs.Store.Rows
import BankLedger.Store.Basic

/-!
# What a Call Does to the Store

A call that succeeds does one of seven things to the store: nothing, or one change that is named
after the operation of the account that it carries out. `Effect` lists them, each with the rows that
were found and the operation that succeeded on them. Whatever is to be proved of every call is
proved by going through this list once, and no proof after it opens the definition of a call.

## Main definitions

* `Call.isMutating`: The call may change the store.
* `Effect`: What a call that succeeds does.

## Theorems

* `account_eq_ok_iff`, `hold_eq_ok_iff`: Rows are found in their tables.
* `changeAccount_eq_ok_iff`: One account is changed.
* `createAccount_eq_ok_iff`: An account is added with its number.
* `createHold_eq_ok_iff`: A hold is added and its amount set aside.
* `releaseHold_eq_ok_iff`: A hold is marked and its amount given back.
* `perform_applyDelta`, `perform_createHold`, `perform_releaseHold`: What they come down to once the
  rows are found.
* `effect_of_perform`: What a call that succeeds does.
* `Effect.opened_found`, `Effect.held_found`: A row that is added is there.
* `after_cases`: A call does nothing or has its effect.
-/

namespace BankLedger

/-- The call may change the store. -/
def Call.isMutating : Call → Bool
  | .createAccount _ => true
  | .getAccount _ => false
  | .getByNumber _ => false
  | .accountsOf _ => false
  | .amend _ _ _ => true
  | .changeStatus _ _ _ => true
  | .applyDelta _ _ => true
  | .createHold _ => true
  | .releaseHold _ _ => true
  | .getHold _ => false
  | .activeHolds _ => false

namespace Store

open Attempt

theorem account_eq_ok_iff (s : Store) (id : AccountId) (a : Account) :
    s.account id = .ok a ↔ s.accounts.get? id = some a := by
  unfold account
  cases s.accounts.get? id with
  | none => simp only [reduceCtorEq]
  | some b => simp only [Except.ok.injEq, Option.some.injEq]

theorem hold_eq_ok_iff (s : Store) (id : HoldId) (h : Hold) :
    s.hold id = .ok h ↔ s.holds.get? id = some h := by
  unfold hold
  cases s.holds.get? id with
  | none => simp only [reduceCtorEq]
  | some g => simp only [Except.ok.injEq, Option.some.injEq]

/-- One account is changed, by an operation that succeeds on it. -/
theorem changeAccount_eq_ok_iff (s t : Store) (id : AccountId)
    (f : Account → Except LedgerError Account) (b : Account) :
    s.changeAccount id f = .ok (b, t) ↔
      ∃ a, s.accounts.get? id = some a ∧ f a = .ok b ∧ s.setAccount b = t := by
  unfold changeAccount
  simp only [bind_eq_ok_iff, account_eq_ok_iff, pure_eq, Except.ok.injEq, Prod.mk.injEq]
  constructor
  · rintro ⟨a, ha, b', hb, rfl, ht⟩
    exact ⟨a, ha, hb, ht⟩
  · rintro ⟨a, ha, hb, ht⟩
    exact ⟨a, ha, b, hb, rfl, ht⟩

/-- An account is added with its number, when both are free. -/
theorem createAccount_eq_ok_iff (s t : Store) (a : Account) :
    s.createAccount a = .ok t ↔ ∃ index accounts, s.index.insert? (a.number, a.id) = some index ∧
      s.accounts.insert? a = some accounts ∧
      { s with accounts := accounts, index := index } = t := by
  unfold createAccount
  cases s.index.insert? (a.number, a.id) with
  | none => simp only [reduceCtorEq, false_and, exists_false]
  | some index =>
      cases s.accounts.insert? a with
      | none => simp only [reduceCtorEq, false_and, and_false, exists_false]
      | some accounts =>
          simp only [Except.ok.injEq, Option.some.injEq, exists_and_left, exists_eq_left']

/-- A hold is added under a free identifier, and its amount set aside on its account. -/
theorem createHold_eq_ok_iff (s t : Store) (h : Hold) (now : Instant) :
    s.createHold h now = .ok t ↔ ∃ a b holds, s.accounts.get? h.account = some a ∧
      s.holds.insert? h = some holds ∧ a.reserve h.amount now = .ok b ∧
      { s.setAccount b with holds := holds } = t := by
  unfold createHold
  rw [bind_eq_ok_iff]
  simp only [account_eq_ok_iff]
  refine exists_congr fun a => ?_
  cases s.holds.insert? h with
  | none => simp only [throw_eq, reduceCtorEq, false_and, and_false, exists_false]
  | some holds =>
      simp only [bind_eq_ok_iff, pure_eq, Except.ok.injEq, Option.some.injEq, exists_and_left,
        exists_eq_left']

theorem markReleased_eq_some_iff (h g : Hold) (now : Instant) :
    h.markReleased now = some g ↔ h.isActive = true ∧ { h with releasedAt := some now } = g := by
  unfold Hold.markReleased
  cases h.isActive with
  | false => simp only [Bool.false_eq_true, if_false, reduceCtorEq, false_and]
  | true => simp only [if_true, Option.some.injEq, true_and]

/-- A hold that was not released before is marked, and its amount given back to its account. -/
theorem releaseHold_eq_ok_iff (s t : Store) (id : HoldId) (now : Instant) (r : Hold) :
    s.releaseHold id now = .ok (r, t) ↔ ∃ h a b, s.holds.get? id = some h ∧
      s.accounts.get? h.account = some a ∧ h.isActive = true ∧
      { h with releasedAt := some now } = r ∧ a.restore h.amount now = .ok b ∧
      { s.setAccount b with holds := s.holds.replace r } = t := by
  unfold releaseHold
  rw [bind_eq_ok_iff]
  simp only [hold_eq_ok_iff]
  refine exists_congr fun h => ?_
  simp only [exists_and_left]
  refine and_congr_right fun _ => ?_
  rw [bind_eq_ok_iff]
  simp only [account_eq_ok_iff]
  refine exists_congr fun a => and_congr_right fun _ => ?_
  -- The hold is marked before the account is changed, so a spent hold ends the call here.
  cases hmark : h.markReleased now with
  | none =>
      have hspent : h.isActive = false := by
        by_contra hactive
        rw [Bool.not_eq_false] at hactive
        rw [(markReleased_eq_some_iff h _ now).mpr ⟨hactive, rfl⟩] at hmark
        cases hmark
      simp only [throw_eq, reduceCtorEq, hspent, Bool.false_eq_true, false_and]
  | some g =>
      rcases (markReleased_eq_some_iff h g now).mp hmark with ⟨hactive, rfl⟩
      simp only [bind_eq_ok_iff, pure_eq, Except.ok.injEq, Prod.mk.injEq, hactive, true_and]
      constructor
      · rintro ⟨b, hb, rfl, ht⟩
        exact ⟨rfl, b, hb, ht⟩
      · rintro ⟨rfl, b, hb, ht⟩
        exact ⟨b, hb, rfl, ht⟩

/-- Money is moved as the account that is found says. -/
theorem perform_applyDelta {s : Store} {id : AccountId} {a : Account}
    (ha : s.accounts.get? id = some a) (delta : Decimal) (now : Instant) :
    s.perform now (.applyDelta id delta)
      = (a.applyDelta delta now).map fun b => ((), s.setAccount b) := by
  change (s.changeAccount id _).map _ = _
  unfold changeAccount
  rw [(account_eq_ok_iff s id a).mpr ha, ok_bind]
  beta_reduce
  cases a.applyDelta delta now with
  | error e => rfl
  | ok b => rfl

/-- Money is set aside as the account that is found says, when the identifier of the hold is
    free. -/
theorem perform_createHold {s : Store} {h : Hold} {a : Account} {holds : Table Hold.id}
    (ha : s.accounts.get? h.account = some a) (hholds : s.holds.insert? h = some holds)
    (now : Instant) :
    s.perform now (.createHold h)
      = (a.reserve h.amount now).map fun b => ((), { s.setAccount b with holds := holds }) := by
  change (s.createHold h now).map _ = _
  unfold createHold
  rw [(account_eq_ok_iff s _ a).mpr ha, ok_bind, hholds]
  cases a.reserve h.amount now with
  | error e => rfl
  | ok b => rfl

/-- Money is given back as the account that is found says, when the hold is active. -/
theorem perform_releaseHold {s : Store} {id : HoldId} {h : Hold} {a : Account}
    (hh : s.holds.get? id = some h) (ha : s.accounts.get? h.account = some a)
    (hactive : h.isActive = true) (time now : Instant) :
    s.perform now (.releaseHold id time)
      = (a.restore h.amount time).map fun b => ({ h with releasedAt := some time },
          { s.setAccount b with holds := s.holds.replace { h with releasedAt := some time } }) := by
  change s.releaseHold id time = _
  unfold releaseHold
  rw [(hold_eq_ok_iff s id h).mpr hh, ok_bind, (account_eq_ok_iff s _ a).mpr ha, ok_bind,
    (markReleased_eq_some_iff h _ time).mpr ⟨hactive, rfl⟩]
  cases a.restore h.amount time with
  | error e => rfl
  | ok b => rfl

/-- What a call that succeeds does to the store. -/
inductive Effect (s : Store) (now : Instant) : Call → Store → Prop where
  /-- A call that only looks leaves the store as it is. -/
  | looked {c : Call} (hc : c.isMutating = false) : Effect s now c s
  /-- An account is added. -/
  | opened {a : Account} {index : Table (Prod.fst : AccountNumber × AccountId → AccountNumber)}
      {accounts : Table Account.id} (hindex : s.index.insert? (a.number, a.id) = some index)
      (haccounts : s.accounts.insert? a = some accounts) :
      Effect s now (.createAccount a) { s with accounts := accounts, index := index }
  /-- Status and rate of an account are set. -/
  | amended {id : AccountId} {status : Option Status} {rate : Option Decimal} {a b : Account}
      (ha : s.accounts.get? id = some a) (hb : a.amend status rate now = .ok b) :
      Effect s now (.amend id status rate) (s.setAccount b)
  /-- An action is carried out on an account. -/
  | acted {id : AccountId} {action : Action} {time : Instant} {a b : Account}
      (ha : s.accounts.get? id = some a) (hb : a.apply action time = .ok b) :
      Effect s now (.changeStatus id action time) (s.setAccount b)
  /-- Money moves. -/
  | moved {id : AccountId} {delta : Decimal} {a b : Account}
      (ha : s.accounts.get? id = some a) (hb : a.applyDelta delta now = .ok b) :
      Effect s now (.applyDelta id delta) (s.setAccount b)
  /-- Money is set aside. -/
  | held {h : Hold} {a b : Account} {holds : Table Hold.id}
      (ha : s.accounts.get? h.account = some a) (hholds : s.holds.insert? h = some holds)
      (hb : a.reserve h.amount now = .ok b) :
      Effect s now (.createHold h) { s.setAccount b with holds := holds }
  /-- Money is given back. -/
  | released {id : HoldId} {time : Instant} {h : Hold} {a b : Account}
      (hh : s.holds.get? id = some h) (ha : s.accounts.get? h.account = some a)
      (hactive : h.isActive = true) (hb : a.restore h.amount time = .ok b) :
      Effect s now (.releaseHold id time)
        { s.setAccount b with holds := s.holds.replace { h with releasedAt := some time } }

/-- What a call that succeeds does. -/
theorem effect_of_perform {s t : Store} {now : Instant} {c : Call} {r : c.Reply}
    (h : s.perform now c = .ok (r, t)) : Effect s now c t := by
  -- One case for each call. A call that looks answers with the store that it was given.
  cases c with
  | createAccount a =>
      rcases (map_eq_ok_iff _ _ _).mp h with ⟨u, hu, heq⟩
      cases heq
      rcases (createAccount_eq_ok_iff s t a).mp hu with ⟨index, accounts, hindex, haccounts, rfl⟩
      exact .opened hindex haccounts
  | getAccount id =>
      rcases (map_eq_ok_iff _ _ _).mp h with ⟨_, _, heq⟩
      cases heq
      exact .looked rfl
  | getByNumber n =>
      rcases (map_eq_ok_iff _ _ _).mp h with ⟨_, _, heq⟩
      cases heq
      exact .looked rfl
  | accountsOf customer =>
      cases h
      exact .looked rfl
  | amend id status rate =>
      rcases (changeAccount_eq_ok_iff s t id _ r).mp h with ⟨a, ha, hb, rfl⟩
      exact .amended ha hb
  | changeStatus id action time =>
      rcases (changeAccount_eq_ok_iff s t id _ r).mp h with ⟨a, ha, hb, rfl⟩
      exact .acted ha hb
  | applyDelta id delta =>
      rcases (map_eq_ok_iff _ _ _).mp h with ⟨⟨b, u⟩, hu, heq⟩
      cases heq
      rcases (changeAccount_eq_ok_iff s _ id _ b).mp hu with ⟨a, ha, hb, rfl⟩
      exact .moved ha hb
  | createHold h' =>
      rcases (map_eq_ok_iff _ _ _).mp h with ⟨u, hu, heq⟩
      cases heq
      rcases (createHold_eq_ok_iff s t h' now).mp hu with ⟨a, b, holds, ha, hholds, hb, rfl⟩
      exact .held ha hholds hb
  | releaseHold id time =>
      rcases (releaseHold_eq_ok_iff s t id time r).mp h with
        ⟨h', a, b, hh, ha, hactive, rfl, hb, rfl⟩
      exact .released hh ha hactive hb
  | getHold id =>
      rcases (map_eq_ok_iff _ _ _).mp h with ⟨_, _, heq⟩
      cases heq
      exact .looked rfl
  | activeHolds id =>
      cases h
      exact .looked rfl

/-- An account that is added was not there before. -/
theorem Effect.opened_found {s t : Store} {now : Instant} {a : Account}
    (h : Effect s now (.createAccount a) t) :
    s.accounts.get? a.id = none ∧ t.accounts.get? a.id = some a := by
  cases h with
  | looked hc => cases hc
  | opened _ haccounts =>
      exact ⟨Table.get?_eq_none_of_insert? haccounts,
        (Table.get?_insert? haccounts a.id).trans (if_pos rfl)⟩

/-- A hold that is added is there. -/
theorem Effect.held_found {s t : Store} {now : Instant} {h : Hold}
    (heffect : Effect s now (.createHold h) t) : t.holds.get? h.id = some h := by
  cases heffect with
  | looked hc => cases hc
  | held _ hholds _ => exact (Table.get?_insert? hholds h.id).trans (if_pos rfl)

/-- A call that succeeds leads to the store that it gives. -/
theorem after_of_perform {s t : Store} {now : Instant} {c : Call} {r : c.Reply}
    (h : s.perform now c = .ok (r, t)) : s.after now c = t := by
  unfold after
  rw [h]

/-- A refused call leaves the store as it is. -/
theorem after_of_refused {s : Store} {now : Instant} {c : Call} {e : LedgerError}
    (h : s.perform now c = .error e) : s.after now c = s := by
  unfold after
  rw [h]

/-- A call does nothing, or it succeeds and has its effect. -/
theorem after_cases (s : Store) (now : Instant) (c : Call) :
    s.after now c = s ∨ (∃ r, s.perform now c = .ok (r, s.after now c)) ∧
      Effect s now c (s.after now c) := by
  rcases hrun : s.perform now c with e | ⟨r, t⟩
  · exact Or.inl (after_of_refused hrun)
  · right
    rw [after_of_perform hrun]
    exact ⟨⟨r, rfl⟩, effect_of_perform hrun⟩

/-- A call that only looks leaves the store as it is. -/
theorem after_of_looking {s : Store} {now : Instant} {c : Call} (h : c.isMutating = false) :
    s.after now c = s := by
  rcases after_cases s now c with hsame | ⟨_, heffect⟩
  · exact hsame
  · generalize s.after now c = t at heffect
    cases heffect with
    | looked _ => rfl
    | opened | amended | acted | moved | held | released => cases h

end Store

end BankLedger
