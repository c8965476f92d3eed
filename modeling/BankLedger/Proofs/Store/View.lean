import BankLedger.Proofs.Projection
import BankLedger.Proofs.Store.Release
import BankLedger.Proofs.Store.Run

/-!
# The Store as Others Know It

The store is looked at as somebody does who follows the events: the status and the balance of each
account, and the holds on it that are not released. Seen in this way every call that changes the
store makes one change to what is known of one account, and this change is the one that its event
tells.

The events tell it in texts, and a zero with a minus would not be read as it was written. No balance
is such a zero, because amounts are above zero and no sum of others is one.

## Main definitions

* `Store.heldOn`: The holds on an account.
* `Store.view`: What the store holds, looked at in this way.
* `Call.IsLegible`: What a call brings can be told in texts.
* `Store.Legible`: What the store holds can be told in texts.

## Theorems

* `Legible.effect`: The store stays legible.
* `Legible.view_createAccount`, `view_applyDelta`, `view_changeStatus`, `view_amend`,
  `view_createHold`, `view_releaseHold`: What a call changes.
-/

namespace BankLedger

/-- What a call brings can be told in texts: its rows are new ones, and what it moves is no zero
    with a minus. -/
structure Call.IsLegible (c : Call) : Prop where
  bringsNew : c.BringsNew
  plain : ∀ id delta, c = .applyDelta id delta → delta.IsPlain

namespace Store

/-- The amount of a hold, if it is on the account and not released. -/
def heldOn (s : Store) (id : AccountId) (k : HoldId) : Option Decimal :=
  (s.holds.get? k).bind fun h =>
    if h.account = id ∧ h.isActive = true then some h.amount.value else none

/-- What the store holds, looked at as a follower does. -/
def view (s : Store) : Projection := fun id =>
  (s.accounts.get? id).map fun a => ⟨a.status, a.balance, s.heldOn id⟩

variable {s t : Store} {id : AccountId} {a b : Account}

/-- No hold is on an account that is not there. -/
theorem NoOrphans.heldOn_eq_none (h : s.NoOrphans) (hid : s.accounts.get? id = none)
    (k : HoldId) : s.heldOn id k = none := by
  unfold heldOn
  rcases hk : s.holds.get? k with _ | g
  · rfl
  · rw [Option.bind_some, if_neg]
    rintro ⟨rfl, _⟩
    rcases h k g hk with ⟨a, ha⟩
    rw [hid] at ha
    cases ha

/-- An account is added, and no hold changes. -/
theorem NoOrphans.view_insert (h : s.NoOrphans) {accounts : Table Account.id}
    {index : Table (Prod.fst : AccountNumber × AccountId → AccountNumber)}
    (haccounts : s.accounts.insert? a = some accounts) (hstatus : a.status = .active)
    (hbalance : a.balance = .zero) :
    ({ s with accounts := accounts, index := index } : Store).view
      = Function.update s.view a.id (some .opened) := by
  funext k
  unfold view
  simp only [Table.get?_insert? haccounts]
  by_cases hk : a.id = k
  · subst hk
    have hnone : s.heldOn a.id = fun _ => none :=
      funext (h.heldOn_eq_none (Table.get?_eq_none_of_insert? haccounts))
    rw [Function.update_self, if_pos rfl, Option.map_some, hstatus, hbalance]
    exact congrArg (fun holds => some (View.mk .active .zero holds)) hnone
  · rw [Function.update_of_ne (Ne.symm hk), if_neg hk]
    rfl

/-- One account takes the place of another, and holds change on no other account. -/
theorem view_eq_change (ha : s.accounts.get? id = some a) (hid : b.id = a.id)
    (haccounts : t.accounts = (s.setAccount b).accounts)
    (hholds : ∀ k, k ≠ id → t.heldOn k = s.heldOn k) {f : View → View}
    (hf : f ⟨a.status, a.balance, s.heldOn id⟩ = ⟨b.status, b.balance, t.heldOn id⟩) :
    t.view = s.view.change id f := by
  funext k
  unfold Projection.change view
  rw [haccounts]
  by_cases hk : k = id
  · subst hk
    rw [Function.update_self, get?_setAccount ha hid, if_pos rfl, ha]
    simp only [Option.map_some, hf]
  · rw [Function.update_of_ne hk, get?_setAccount ha hid, if_neg (Ne.symm hk), hholds k hk]

/-- One account takes the place of another. -/
theorem view_setAccount (ha : s.accounts.get? id = some a) (hid : b.id = a.id) {f : View → View}
    (hf : f ⟨a.status, a.balance, s.heldOn id⟩ = ⟨b.status, b.balance, s.heldOn id⟩) :
    (s.setAccount b).view = s.view.change id f :=
  view_eq_change ha hid rfl (fun _ _ => rfl) hf

/-- A new hold is on its account and on no other. -/
theorem heldOn_insert {h : Hold} {holds : Table Hold.id} (hholds : s.holds.insert? h = some holds)
    (ht : t.holds = holds) (hactive : h.isActive = true) (id : AccountId) :
    t.heldOn id = if h.account = id then Function.update (s.heldOn id) h.id (some h.amount.value)
      else s.heldOn id := by
  funext k
  unfold heldOn
  rw [ht, Table.get?_insert? hholds]
  have hfree := Table.get?_eq_none_of_insert? hholds
  by_cases hk : h.id = k <;> by_cases hid : h.account = id
  · subst hk
    simp [hid, hactive]
  · subst hk
    simp [hid, hfree]
  · simp [hk, hid, Function.update_of_ne (Ne.symm hk)]
  · simp [hk, hid]

/-- A hold that is released is on no account any more. -/
theorem heldOn_replace {h : Hold} {k : HoldId} (hh : s.holds.get? k = some h) (time : Instant)
    (ht : t.holds = s.holds.replace { h with releasedAt := some time }) (id : AccountId) :
    t.heldOn id = if h.account = id then Function.update (s.heldOn id) k none
      else s.heldOn id := by
  funext j
  unfold heldOn
  rw [ht, get?_replace_released hh]
  by_cases hj : k = j <;> by_cases hid : h.account = id
  · subst hj
    simp [hid, Hold.isActive]
  · subst hj
    simp [hid, hh]
  · simp [hj, hid, Function.update_of_ne (Ne.symm hj)]
  · simp [hj, hid]

/-- What the store holds can be told in texts: no balance is a zero with a minus. -/
structure Legible (s : Store) : Prop where
  noOrphans : s.NoOrphans
  plain : ∀ id a, s.accounts.get? id = some a → a.balance.IsPlain

theorem legible_empty : empty.Legible where
  noOrphans := noOrphans_empty
  plain _ _ ha := by cases ha

variable {now : Instant} {c : Call}

/-- The store stays legible. -/
theorem Legible.effect (hs : s.Legible) (hc : c.IsLegible) (heffect : Effect s now c t) :
    t.Legible where
  noOrphans := hs.noOrphans.effect heffect
  plain id b hb := by
    rcases heffect.account_cases hb with rfl | hold | ⟨a, ha, hchange⟩
    · rcases hc.bringsNew with ⟨_, _, _, _, _, _, _, rfl⟩
      exact Decimal.isPlain_zero
    · exact hs.plain id b hold
    · rcases hchange.balance_cases with hsame | ⟨k, delta, rfl, hb⟩
      · rw [hsame]
        exact hs.plain id a ha
      · rcases (Account.applyDelta_eq_ok_iff _ _ _ _).mp hb with ⟨balance, _, hsum, _, _, rfl⟩
        exact (hs.plain id a ha).add? (hc.plain k delta rfl) hsum

/-- Nothing is known of a new account but that it is open. -/
theorem view_createAccount {reply : Unit} (hs : s.Legible)
    (hnew : (Call.createAccount a).BringsNew)
    (h : s.perform now (.createAccount a) = .ok (reply, t)) :
    t.view = Function.update s.view a.id (some .opened) := by
  rcases hnew with ⟨_, _, _, _, _, _, _, rfl⟩
  cases effect_of_perform h with
  | looked hc => cases hc
  | opened _ haccounts => exact hs.noOrphans.view_insert haccounts rfl rfl

/-- Money moves, and the balance becomes what is found afterwards. -/
theorem view_applyDelta {delta : Decimal} {reply : Unit}
    (h : s.perform now (.applyDelta id delta) = .ok (reply, t)) :
    ∃ b, t.accounts.get? id = some b ∧ t.view = s.view.change id (.withBalance b.balance) := by
  cases effect_of_perform h with
  | looked hc => cases hc
  | @moved _ _ a b ha hb =>
      have hchange : Change now (.applyDelta id delta) a b := .moved hb
      refine ⟨b, (get?_setAccount ha hchange.id_eq id).trans (if_pos rfl),
        view_setAccount ha hchange.id_eq ?_⟩
      rcases (Account.applyDelta_eq_ok_iff _ _ _ _).mp hb with ⟨balance, _, _, _, _, rfl⟩
      rfl

/-- An action leads to its status and leaves the money alone. -/
theorem status_of_apply {action : Action} {time : Instant} (h : a.apply action time = .ok b) :
    b.status = action.target ∧ b.balance = a.balance := by
  rcases (Account.apply_eq_ok_iff _ _ _ _).mp h with ⟨status, hstatus, rfl⟩
  rw [Account.transition_eq_ok_iff] at hstatus
  cases action with
  | freeze => exact ⟨hstatus.2, rfl⟩
  | unfreeze => exact ⟨hstatus.2, rfl⟩
  | close => exact ⟨hstatus.2.2, rfl⟩

/-- An action is carried out, and the status becomes the one that it leads to. -/
theorem view_changeStatus {action : Action} {time : Instant}
    (h : s.perform now (.changeStatus id action time) = .ok (b, t)) :
    b.id = id ∧ t.view = s.view.change id (.withStatus action.target) := by
  rcases (changeAccount_eq_ok_iff _ _ _ _ _).mp h with ⟨a, ha, hb, rfl⟩
  have hchange : Change now (.changeStatus id action time) a b := .acted hb
  rcases status_of_apply hb with ⟨hstatus, hbalance⟩
  refine ⟨hchange.id_eq.trans (Table.key_of_get? ha), view_setAccount ha hchange.id_eq ?_⟩
  rw [hstatus, hbalance]
  rfl

/-- The status becomes the one that is set, if one is. -/
theorem view_amend {status : Option Status} {rate : Option Decimal}
    (h : s.perform now (.amend id status rate) = .ok (b, t)) :
    t.view = s.view.change id fun v => v.withStatus (status.getD v.status) := by
  rcases (changeAccount_eq_ok_iff _ _ _ _ _).mp h with ⟨a, ha, hb, rfl⟩
  have hchange : Change now (.amend id status rate) a b := .amended hb
  refine view_setAccount ha hchange.id_eq ?_
  rcases (Account.amend_eq_ok_iff _ _ _ _ _).mp hb with ⟨_, _, rfl⟩
  rfl

/-- A hold is put on its account. -/
theorem view_createHold {h : Hold} {reply : Unit} (hnew : (Call.createHold h).BringsNew)
    (hcall : s.perform now (.createHold h) = .ok (reply, t)) :
    t.view = s.view.change h.account (.withHold h.id (some h.amount.value)) := by
  have hactive : h.isActive = true := by
    rcases hnew with ⟨_, _, _, _, _, _, _, hstart⟩
    rw [hstart]
    rfl
  rcases (Attempt.map_eq_ok_iff _ _ _).mp hcall with ⟨u, hu, heq⟩
  cases heq
  rcases (createHold_eq_ok_iff _ _ _ _).mp hu with ⟨a, b, holds, ha, hholds, hb, ht⟩
  have hheld := heldOn_insert (t := t) hholds (ht ▸ rfl) hactive
  refine view_eq_change ha (Change.held hb).id_eq (ht ▸ rfl) (fun k hk => ?_) ?_
  · rw [hheld, if_neg hk.symm]
  · rcases (Account.reserve_eq_ok_iff _ _ _ _).mp hb with ⟨_, _, _, rfl⟩
    rw [hheld, if_pos rfl]
    rfl

/-- A hold is taken off its account. -/
theorem view_releaseHold {k : HoldId} {time : Instant} {r : Hold}
    (h : s.perform now (.releaseHold k time) = .ok (r, t)) :
    r.id = k ∧ t.view = s.view.change r.account (.withHold k none) := by
  rcases (releaseHold_eq_ok_iff _ _ _ _ _).mp h with ⟨g, a, b, hg, ha, _, rfl, hb, ht⟩
  have hheld := heldOn_replace (t := t) hg time (ht ▸ rfl)
  have hchange : Change now (.releaseHold k time) a b := .released hb
  refine ⟨Table.key_of_get? (r := g) hg, ?_⟩
  change t.view = s.view.change g.account _
  refine view_eq_change ha hchange.id_eq (ht ▸ rfl) (fun j hj => ?_) ?_
  · rw [hheld, if_neg hj.symm]
  · rcases (Account.restore_eq_ok_iff _ _ _ _).mp hb with ⟨_, _, rfl⟩
    rw [hheld, if_pos rfl]
    rfl

end Store

end BankLedger
