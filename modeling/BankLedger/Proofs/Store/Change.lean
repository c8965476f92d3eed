import BankLedger.Proofs.Store.Effect

/-!
# What a Call Does to an Account

Five of the calls change an account, and each changes the one account that it is about by one
operation. Seen from a single identifier this leaves three cases: the account found there after a
call was added by it, was there before, or is what `Change` makes of the one that was there before.
An invariant that is about accounts one by one has to be shown for these cases only.

## Main definitions

* `Call.Writes`: What a call may write in a row.
* `Change`: What a call does to the account that it is about.
* `about`: The account that a call would change.

## Theorems

* `get?_setAccount`: What is found after an account was changed.
* `Change.writes`: A call writes only the fields that it is for.
* `Change.id_eq`: No call changes the identifier of an account.
* `Change.balance_cases`: Only a movement of money writes a balance.
* `Effect.account_cases`: What is found under an identifier after a call.
* `Effect.account_step`: No account is lost, and only the one that the call is about is changed.
-/

namespace BankLedger

/-- What a call may write in a row that is there: the row afterwards is the one before, but for the
    fields that the call is for. -/
def Call.Writes : Call → Account → Account → Prop
  | .amend _ status rate, a, b =>
      { a with
        status := status.getD a.status
        rate := rate.getD a.rate
        updatedAt := b.updatedAt } = b
  | .changeStatus _ _ _, a, b =>
      { a with status := b.status, closedAt := b.closedAt, updatedAt := b.updatedAt } = b
  | .applyDelta _ _, a, b =>
      { a with balance := b.balance, available := b.available, updatedAt := b.updatedAt } = b
  | .createHold _, a, b => { a with available := b.available, updatedAt := b.updatedAt } = b
  | .releaseHold _ _, a, b => { a with available := b.available, updatedAt := b.updatedAt } = b
  | _, a, b => a = b

namespace Store

/-- What is found after an account was changed: the changed one under its identifier, all others as
    before. -/
theorem get?_setAccount {s : Store} {id : AccountId} {a b : Account}
    (ha : s.accounts.get? id = some a) (hid : b.id = a.id) (k : AccountId) :
    (s.setAccount b).accounts.get? k = if id = k then some b else s.accounts.get? k :=
  Table.get?_replace_of_get? ha (hid.trans (Table.key_of_get? ha)) k

/-- What a call does to the account that it is about. -/
inductive Change (now : Instant) : Call → Account → Account → Prop where
  | amended {id : AccountId} {status : Option Status} {rate : Option Decimal} {a b : Account}
      (hb : a.amend status rate now = .ok b) : Change now (.amend id status rate) a b
  | acted {id : AccountId} {action : Action} {time : Instant} {a b : Account}
      (hb : a.apply action time = .ok b) : Change now (.changeStatus id action time) a b
  | moved {id : AccountId} {delta : Decimal} {a b : Account}
      (hb : a.applyDelta delta now = .ok b) : Change now (.applyDelta id delta) a b
  | held {h : Hold} {a b : Account} (hb : a.reserve h.amount now = .ok b) :
      Change now (.createHold h) a b
  | released {id : HoldId} {time : Instant} {amount : Amount} {a b : Account}
      (hb : a.restore amount time = .ok b) : Change now (.releaseHold id time) a b

section Writes

variable {now : Instant} {c : Call} {a b : Account}

/-- A call writes only the fields that it is for. -/
theorem Change.writes (h : Change now c a b) : c.Writes a b := by
  cases h with
  | amended hb =>
      rcases (Account.amend_eq_ok_iff _ _ _ _ _).mp hb with ⟨_, _, rfl⟩
      rfl
  | acted hb =>
      rcases (Account.apply_eq_ok_iff _ _ _ _).mp hb with ⟨_, _, rfl⟩
      rfl
  | moved hb =>
      rcases (Account.applyDelta_eq_ok_iff _ _ _ _).mp hb with ⟨_, _, _, _, _, rfl⟩
      rfl
  | held hb =>
      rcases (Account.reserve_eq_ok_iff _ _ _ _).mp hb with ⟨_, _, _, rfl⟩
      rfl
  | released hb =>
      rcases (Account.restore_eq_ok_iff _ _ _ _).mp hb with ⟨_, _, rfl⟩
      rfl

/-- No call changes the identifier of an account. -/
theorem Change.id_eq (h : Change now c a b) : b.id = a.id := by
  have hwrites := h.writes
  cases h with
  | amended | acted | moved | held | released => exact (congrArg Account.id hwrites).symm

/-- Only a movement of money writes a balance. -/
theorem Change.balance_cases (h : Change now c a b) : b.balance = a.balance ∨
    ∃ id delta, c = .applyDelta id delta ∧ a.applyDelta delta now = .ok b := by
  have hwrites := h.writes
  cases h with
  | moved hb => exact Or.inr ⟨_, _, rfl, hb⟩
  | amended | acted | held | released =>
      exact Or.inl (congrArg Account.balance hwrites).symm

end Writes

/-- What is found under an identifier after one account was changed: what was there before, or the
    changed account. -/
theorem setAccount_cases {s : Store} {now : Instant} {c : Call} {k id : AccountId}
    {a b b' : Account} (ha : s.accounts.get? k = some a) (hchange : Change now c a b)
    (hb' : (s.setAccount b).accounts.get? id = some b') :
    s.accounts.get? id = some b' ∨ ∃ a', s.accounts.get? id = some a' ∧ Change now c a' b' := by
  rw [get?_setAccount ha hchange.id_eq] at hb'
  split at hb'
  · next hid =>
      subst hid
      cases hb'
      exact Or.inr ⟨a, ha, hchange⟩
  · exact Or.inl hb'

/-- What is found under an identifier after a call: an account that the call added, what was there
    before, or the changed account. -/
theorem Effect.account_cases {s t : Store} {now : Instant} {c : Call} (h : Effect s now c t)
    {id : AccountId} {b : Account} (hb : t.accounts.get? id = some b) :
    c = .createAccount b ∨ s.accounts.get? id = some b ∨
      ∃ a, s.accounts.get? id = some a ∧ Change now c a b := by
  cases h with
  | looked _ => exact Or.inr (Or.inl hb)
  | opened _ haccounts =>
      rw [Table.get?_insert? haccounts] at hb
      split at hb
      · cases hb
        exact Or.inl rfl
      · exact Or.inr (Or.inl hb)
  | amended ha hop => exact Or.inr (setAccount_cases ha (.amended hop) hb)
  | acted ha hop => exact Or.inr (setAccount_cases ha (.acted hop) hb)
  | moved ha hop => exact Or.inr (setAccount_cases ha (.moved hop) hb)
  | held ha _ hop => exact Or.inr (setAccount_cases ha (.held hop) hb)
  | released _ ha _ hop => exact Or.inr (setAccount_cases ha (.released hop) hb)

/-- The account that a call would change: the one that it names, or the one of the hold that it
    names. -/
def about (s : Store) : Call → Option AccountId
  | .amend id _ _ => some id
  | .changeStatus id _ _ => some id
  | .applyDelta id _ => some id
  | .createHold h => some h.account
  | .releaseHold id _ => (s.holds.get? id).map Hold.account
  | _ => none

/-- No account is lost by a call, and only the one that the call is about is changed. -/
theorem Effect.account_step {s t : Store} {now : Instant} {c : Call} (h : Effect s now c t)
    {id : AccountId} {a : Account} (ha : s.accounts.get? id = some a) :
    ∃ b, t.accounts.get? id = some b ∧
      (b = a ∨ Change now c a b ∧ s.about c = some id) := by
  -- One account is put in the place of another, and it is this one or it is not.
  have hset {k : AccountId} {old new : Account} (hold : s.accounts.get? k = some old)
      (hchange : Change now c old new) (habout : s.about c = some k) :
      ∃ b, (s.setAccount new).accounts.get? id = some b ∧
        (b = a ∨ Change now c a b ∧ s.about c = some id) := by
    rw [get?_setAccount hold hchange.id_eq]
    by_cases hk : k = id
    · subst hk
      rw [if_pos rfl]
      rw [ha] at hold
      cases hold
      exact ⟨new, rfl, Or.inr ⟨hchange, habout⟩⟩
    · rw [if_neg hk]
      exact ⟨a, ha, Or.inl rfl⟩
  cases h with
  | looked _ => exact ⟨a, ha, Or.inl rfl⟩
  | opened _ haccounts =>
      refine ⟨a, ?_, Or.inl rfl⟩
      rw [Table.get?_insert? haccounts]
      split
      · next hid =>
          subst hid
          rw [Table.get?_eq_none_of_insert? haccounts] at ha
          cases ha
      · exact ha
  | amended hold hop => exact hset hold (.amended hop) rfl
  | acted hold hop => exact hset hold (.acted hop) rfl
  | moved hold hop => exact hset hold (.moved hop) rfl
  | held hold _ hop => exact hset hold (.held hop) rfl
  | released hh hold _ hop =>
      exact hset hold (.released hop) (congrArg (Option.map Hold.account) hh)

end Store

/-- A new account, on which examples are shown. -/
def Account.untouched : Account :=
  .start default default .checking "EUR" ⟨"01-2345-6789", by decide⟩ .zero .epoch

/-- A second new account, with an identifier and a number of its own. -/
def Account.neighbour : Account :=
  .start ⟨.timeOrdered 0 1⟩ default .checking "EUR" ⟨"01-2345-6790", by decide⟩ .zero .epoch

end BankLedger
