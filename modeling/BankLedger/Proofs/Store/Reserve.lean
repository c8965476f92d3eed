import BankLedger.Proofs.Decimal.Sum
import BankLedger.Proofs.Store.Run

/-!
# Money and Reserved Money

The two balances of an account and the holds on it are kept in two tables, and each call changes
only what it is about. That they fit together is an invariant over all calls: the balance never
falls below zero, and what is available is the balance less the amounts of the active holds.

The first half needs nothing but the guard of `applyDelta`, which looks at the sum after it was
rounded. The second half is an equation, so it needs that nothing was rounded away; `ExactOn` asks
that of the sums that were written on this one account, and of no other sum.

The equation would not survive a hold on an account that does not exist yet, because the account
would be opened with everything available. So `Reconciled` carries along that no hold refers to such
an account.

## Main definitions

* `Decimal.AddsExactly`: A sum with nothing rounded away.
* `Store.reserved`: The amounts of the active holds on an account.
* `Store.SumsExact`, `Store.ExactOn`: The sums of a call or of a run lose nothing on an account.
* `Store.Solvent`: No balance is below zero.
* `Store.Reconciled`: The balances of an account fit the holds on it.

## Theorems

* `reserved_eq_sum_share`: The reserved money as a total over all holds.
* `solvent_of_effect`, `reconciled_of_effect`: Both invariants are preserved by every call.
* `afterAll_exactOn_induction`: Induction over a run that loses nothing on an account.
* `balance_nonneg_and_available_eq`: Both hold after every run.
-/

namespace BankLedger

/-- If there is a sum, nothing of it was rounded away. -/
def Decimal.AddsExactly (a b : Decimal) : Prop := ∀ r ∈ a.add? b, Decimal.Exact a b r

instance (a b r : Decimal) : Decidable (Decimal.Exact a b r) :=
  inferInstanceAs (Decidable (r.toRat = a.toRat + b.toRat))

instance (a b : Decimal) : Decidable (a.AddsExactly b) :=
  inferInstanceAs (Decidable (∀ r ∈ a.add? b, Decimal.Exact a b r))

namespace Store

open Decimal

/-- The money on an account that is set aside: the amounts of its active holds together. -/
def reserved (s : Store) (id : AccountId) : ℚ :=
  ((s.holds.rows.filter fun h => h.account = id && h.isActive).map
    fun h => h.amount.value.toRat).sum

/-- What a hold adds to the reserved money of an account. -/
def share (id : AccountId) (h : Hold) : ℚ :=
  if h.account = id && h.isActive then h.amount.value.toRat else 0

theorem share_of_active {h : Hold} (hactive : h.isActive = true) (id : AccountId) :
    share id h = if h.account = id then h.amount.value.toRat else 0 := by
  unfold share
  simp only [hactive, Bool.and_true, decide_eq_true_eq]

theorem share_of_released (h : Hold) (time : Instant) (id : AccountId) :
    share id { h with releasedAt := some time } = 0 := by
  unfold share
  simp only [Hold.isActive, Option.isNone_some, Bool.and_false, Bool.false_eq_true, if_false]

/-- The reserved money as a total over all holds, most of which add nothing. -/
theorem reserved_eq_sum_share (s : Store) (id : AccountId) :
    s.reserved id = (s.holds.rows.map (share id)).sum := by
  unfold reserved
  induction s.holds.rows with
  | nil => rfl
  | cons h rest ih =>
      rw [List.map_cons, List.sum_cons, ← ih, List.filter_cons]
      unfold share
      split
      · rw [List.map_cons, List.sum_cons]
      · rw [zero_add]

/-- The sums that a call writes on an account lose nothing. -/
def SumsExact (s : Store) (id : AccountId) : Call → Prop
  | .applyDelta i delta => i = id → ∀ a ∈ s.accounts.get? id,
      a.balance.AddsExactly delta ∧ a.available.AddsExactly delta
  | .createHold h => h.account = id → ∀ a ∈ s.accounts.get? id,
      a.available.AddsExactly (-h.amount.value)
  | .releaseHold i _ => ∀ h ∈ s.holds.get? i, h.account = id → ∀ a ∈ s.accounts.get? id,
      a.available.AddsExactly h.amount.value
  | _ => True

instance (s : Store) (id : AccountId) (c : Call) : Decidable (s.SumsExact id c) := by
  cases c <;> unfold SumsExact <;> infer_instance

/-- The sums that a run writes on an account lose nothing. A refused call writes none. -/
def ExactOn (id : AccountId) : Store → List (Instant × Call) → Prop
  | _, [] => True
  | s, (now, c) :: rest =>
      ((s.perform now c).isOk = true → s.SumsExact id c) ∧ ExactOn id (s.after now c) rest

/-- Whether the sums of a run lose nothing can be computed along the run. -/
def decideExactOn (id : AccountId) : (s : Store) → (calls : List (Instant × Call)) →
    Decidable (ExactOn id s calls)
  | _, [] => isTrue trivial
  | s, (now, c) :: rest =>
      have := decideExactOn id (s.after now c) rest
      inferInstanceAs (Decidable
        (((s.perform now c).isOk = true → s.SumsExact id c) ∧ ExactOn id (s.after now c) rest))

instance (id : AccountId) (s : Store) (calls : List (Instant × Call)) :
    Decidable (ExactOn id s calls) := decideExactOn id s calls

/-- If a run loses nothing, its beginning loses nothing. -/
theorem ExactOn.of_append {id : AccountId} {s : Store} {calls later : List (Instant × Call)}
    (h : ExactOn id s (calls ++ later)) : ExactOn id s calls := by
  induction calls generalizing s with
  | nil => trivial
  | cons c calls ih => exact ⟨h.1, ih h.2⟩

/-- No balance is below zero. -/
def Solvent (s : Store) : Prop := ∀ id a, s.accounts.get? id = some a → 0 ≤ a.balance.toRat

/-- The balances of an account fit the holds on it. -/
structure Reconciled (s : Store) (id : AccountId) : Prop where
  /-- What is available is the balance less the reserved money. -/
  available_eq : ∀ a, s.accounts.get? id = some a →
    a.available.toRat = a.balance.toRat - s.reserved id
  /-- There is no hold on an account that does not exist. -/
  no_orphan : s.accounts.get? id = none → ∀ h ∈ s.holds.rows, h.account ≠ id

/-- Every call preserves that no balance is below zero: only moving money writes a balance, and that
    looks at what it writes. -/
theorem solvent_of_effect (s t : Store) (now : Instant) (c : Call) (hnew : c.BringsNew)
    (hs : Solvent s) (heffect : Effect s now c t) : Solvent t := by
  intro id b hb
  rcases heffect.account_cases hb with rfl | hsame | ⟨a, ha, hchange⟩
  · rcases hnew with ⟨_, _, _, _, _, _, _, rfl⟩
    exact toRat_zero.ge
  · exact hs id b hsame
  · rcases hchange.balance_cases with hsame | ⟨_, _, _, hop⟩
    · exact hsame ▸ hs id a ha
    · -- The sign is that of the balance as it is written, so rounding does not matter.
      rcases (Account.applyDelta_eq_ok_iff _ _ _ _).mp hop with ⟨_, _, _, hguard, _, rfl⟩
      exact (not_isNegative_iff _).mp hguard

theorem reserved_congr {s t : Store} (h : t.holds = s.holds) (id : AccountId) :
    t.reserved id = s.reserved id := by
  unfold reserved
  rw [h]

/-- Nothing is set aside on an account that no hold refers to. -/
theorem reserved_eq_zero {s : Store} {id : AccountId} (h : ∀ g ∈ s.holds.rows, g.account ≠ id) :
    s.reserved id = 0 := by
  unfold reserved
  rw [List.filter_eq_nil_iff.mpr, List.map_nil, List.sum_nil]
  intro g hg
  simp only [h g hg, decide_false, Bool.false_and, Bool.false_eq_true, not_false_eq_true]

/-- A new hold adds its amount on its own account. -/
theorem reserved_insert? {s t : Store} {h : Hold} (hins : s.holds.insert? h = some t.holds)
    (hactive : h.isActive = true) (id : AccountId) :
    t.reserved id = s.reserved id + if h.account = id then h.amount.value.toRat else 0 := by
  rw [reserved_eq_sum_share, reserved_eq_sum_share, Table.sum_insert? _ hins,
    share_of_active hactive]

/-- A hold that is marked as released takes its amount off on its own account. -/
theorem reserved_release {s t : Store} {h : Hold} {time : Instant} {k : HoldId}
    (hh : s.holds.get? k = some h) (hactive : h.isActive = true)
    (hholds : t.holds = s.holds.replace { h with releasedAt := some time }) (id : AccountId) :
    t.reserved id = s.reserved id - if h.account = id then h.amount.value.toRat else 0 := by
  have hid : h.id = k := Table.key_of_get? hh
  have hkey : s.holds.get? (Hold.id { h with releasedAt := some time }) = some h := by
    change s.holds.get? h.id = some h
    rw [hid, hh]
  rw [reserved_eq_sum_share, reserved_eq_sum_share, hholds, Table.sum_replace _ hkey,
    share_of_active hactive, share_of_released, add_zero]

/-- A change of one account keeps the balances of every account fitting its holds, when it keeps the
    difference of its own two balances in step with the reserved money, and leaves the reserved
    money of all others. -/
theorem reconciled_of_row {s t : Store} {k id : AccountId} {a b : Account} (hr : Reconciled s id)
    (ha : s.accounts.get? k = some a) (hid : b.id = a.id)
    (haccounts : t.accounts = (s.setAccount b).accounts)
    (hholds : ∀ h ∈ t.holds.rows, h.account = k ∨ ∃ g ∈ s.holds.rows, g.account = h.account)
    (hown : k = id →
      b.available.toRat - b.balance.toRat + t.reserved id
        = a.available.toRat - a.balance.toRat + s.reserved id)
    (hother : k ≠ id → t.reserved id = s.reserved id) : Reconciled t id := by
  constructor
  · intro a' ha'
    rw [haccounts, get?_setAccount ha hid] at ha'
    by_cases hk : k = id
    · rw [if_pos hk] at ha'
      cases ha'
      have hbefore := hr.available_eq a (hk ▸ ha)
      have hstep := hown hk
      linarith
    · rw [if_neg hk] at ha'
      rw [hother hk]
      exact hr.available_eq a' ha'
  · intro hnone h hh
    rw [haccounts] at hnone
    -- A call adds no hold to an account that is not there, and takes no account away.
    have hbefore : s.accounts.get? id = none :=
      (Table.get?_replace_eq_none_iff s.accounts b id).mp hnone
    rcases hholds h hh with hon | ⟨g, hg, heq⟩
    · rintro rfl
      rw [hon, ha] at hbefore
      cases hbefore
    · rw [← heq]
      exact hr.no_orphan hbefore g hg

/-- Every call preserves that balances fit holds, if its sums on the account lose nothing. -/
theorem reconciled_of_effect (id : AccountId) (s t : Store) (now : Instant) (c : Call)
    (hnew : c.BringsNew) (hexact : s.SumsExact id c) (hr : Reconciled s id)
    (heffect : Effect s now c t) : Reconciled t id := by
  cases heffect with
  | looked _ => exact hr
  | opened _ haccounts =>
      rcases hnew with ⟨_, _, _, _, _, _, _, rfl⟩
      constructor
      · intro b hb
        rw [Table.get?_insert? haccounts] at hb
        split at hb
        · next hid =>
            -- The account was not there before, so no hold refers to it.
            cases hb
            have hfree := Table.get?_eq_none_of_insert? haccounts
            rw [hid] at hfree
            change zero.toRat = zero.toRat - s.reserved id
            rw [reserved_eq_zero (hr.no_orphan hfree), sub_zero]
        · exact hr.available_eq b hb
      · intro hnone
        rw [Table.get?_insert? haccounts] at hnone
        split at hnone
        · cases hnone
        · exact hr.no_orphan hnone
  | amended ha hop =>
      have hchange : Change now (.amend id _ _) _ _ := .amended hop
      refine reconciled_of_row hr ha hchange.id_eq rfl
        (fun h hh => Or.inr ⟨h, hh, rfl⟩) (fun _ => ?_) (fun _ => rfl)
      rcases (Account.amend_eq_ok_iff _ _ _ _ _).mp hop with ⟨_, _, rfl⟩
      rfl
  | acted ha hop =>
      have hchange : Change now (.changeStatus id _ _) _ _ := .acted hop
      refine reconciled_of_row hr ha hchange.id_eq rfl
        (fun h hh => Or.inr ⟨h, hh, rfl⟩) (fun _ => ?_) (fun _ => rfl)
      rcases (Account.apply_eq_ok_iff _ _ _ _).mp hop with ⟨_, _, rfl⟩
      rfl
  | moved ha hop =>
      have hchange : Change now (.applyDelta id _) _ _ := .moved hop
      refine reconciled_of_row hr ha hchange.id_eq rfl
        (fun h hh => Or.inr ⟨h, hh, rfl⟩) (fun hk => ?_) (fun _ => rfl)
      subst hk
      rcases (Account.applyDelta_eq_ok_iff _ _ _ _).mp hop with
        ⟨balance, available, hbalance, _, havailable, rfl⟩
      -- Both balances move by the same amount, so their difference stays.
      rcases hexact rfl _ ha with ⟨hexbalance, hexavailable⟩
      have hsum := hexbalance _ hbalance
      have hsum' := hexavailable _ havailable
      unfold Exact at hsum hsum'
      simp only [hsum, hsum', reserved_congr (s := s) (t := s.setAccount _) rfl]
      ring
  | @held h a b holds ha hholds hop =>
      rcases hnew with ⟨_, _, _, _, _, _, _, hstart⟩
      have hactive : h.isActive = true := by rw [hstart]; rfl
      have hreserved := reserved_insert? (t := { s.setAccount b with holds := holds })
        hholds hactive
      refine reconciled_of_row hr ha (Change.held hop).id_eq rfl (fun g hg => ?_) (fun hk => ?_)
        (fun hk => ?_)
      · rcases (Table.mem_rows_insert? hholds g).mp hg with hold | rfl
        · exact Or.inr ⟨g, hold, rfl⟩
        · exact Or.inl rfl
      · subst hk
        rcases (Account.reserve_eq_ok_iff _ _ _ _).mp hop with ⟨_, available, havailable, rfl⟩
        have hsum := hexact rfl _ ha _ havailable
        unfold Exact at hsum
        rw [toRat_neg] at hsum
        rw [hreserved, if_pos rfl]
        simp only [hsum]
        ring
      · rw [hreserved, if_neg hk, add_zero]
  | @released k time h a b hh ha hactive hop =>
      have hreserved := reserved_release (t := { s.setAccount b with
        holds := s.holds.replace { h with releasedAt := some time } }) hh hactive rfl
      have hchange : Change now (.releaseHold k _) _ _ := .released hop
      refine reconciled_of_row hr ha hchange.id_eq rfl
        (fun g hg => ?_) (fun hk => ?_) (fun hk => ?_)
      · rcases Table.mem_rows_replace hg with hold | rfl
        · exact Or.inr ⟨g, hold, rfl⟩
        · exact Or.inl rfl
      · subst hk
        rcases (Account.restore_eq_ok_iff _ _ _ _).mp hop with ⟨available, havailable, rfl⟩
        have hsum := hexact h hh rfl _ ha _ havailable
        unfold Exact at hsum
        rw [hreserved, if_pos rfl]
        simp only [hsum]
        ring
      · rw [hreserved, if_neg hk, sub_zero]

/-- What every call preserves that loses nothing on an account holds after every run that loses
    nothing there. A refused call writes no sum. -/
theorem afterAll_exactOn_induction {P : Store → Prop} {id : AccountId}
    (hstep : ∀ s t now c, c.BringsNew → s.SumsExact id c → P s → Effect s now c t → P t)
    {s : Store} (hs : P s) (calls : List (Instant × Call)) (hnew : ∀ c ∈ calls, c.2.BringsNew)
    (hexact : ExactOn id s calls) : P (s.afterAll calls) := by
  induction calls generalizing s with
  | nil => exact hs
  | cons c rest ih =>
      rcases c with ⟨now, c⟩
      rcases hexact with ⟨hfirst, hrest⟩
      rw [afterAll_cons]
      refine ih ?_ (fun d hd => hnew d (List.mem_cons_of_mem _ hd)) hrest
      -- A call that does nothing needs no exact sums, and any other one has succeeded.
      rcases after_cases s now c with hsame | ⟨⟨r, hok⟩, heffect⟩
      · rw [hsame]
        exact hs
      · have hsums := hfirst (by rw [hok]; rfl)
        exact hstep s _ now c (hnew _ List.mem_cons_self) hsums hs heffect

/-- Every run preserves that balances fit holds, as long as nothing is lost on the account. -/
theorem reconciled_afterAll (id : AccountId) (s : Store) (hr : Reconciled s id)
    (calls : List (Instant × Call)) (hnew : ∀ c ∈ calls, c.2.BringsNew)
    (hexact : ExactOn id s calls) : Reconciled (s.afterAll calls) id :=
  afterAll_exactOn_induction (reconciled_of_effect id) hr calls hnew hexact

theorem solvent_empty : Solvent empty := by
  intro id a ha
  cases ha

theorem reconciled_empty (id : AccountId) : Reconciled empty id := by
  constructor
  · intro a ha
    cases ha
  · intro _ h hh
    cases hh

/-- After every run from the empty store no balance is below zero, and what is available is the
    balance less the amounts of the active holds, unless a sum on the account was rounded. -/
theorem balance_nonneg_and_available_eq (calls : List (Instant × Call))
    (hnew : ∀ c ∈ calls, c.2.BringsNew) (id : AccountId) (a : Account)
    (ha : (empty.afterAll calls).accounts.get? id = some a) :
    0 ≤ a.balance.toRat ∧ (ExactOn id empty calls →
      a.available.toRat = a.balance.toRat - (empty.afterAll calls).reserved id) := by
  constructor
  · have hsolvent := afterAll_induction Call.BringsNew
      (fun s t now c hc hs heffect => solvent_of_effect s t now c hc hs heffect) empty
      solvent_empty calls hnew
    exact hsolvent id a ha
  · intro hexact
    exact (reconciled_afterAll id empty (reconciled_empty id) calls hnew hexact).available_eq a ha

/-- A run on one account: 100.5 go in, 40 are set aside, and 70 go out, which is more than is
    available. The last call asks for more than the balance and is refused. -/
def overdrawingRun : List (Instant × Call) :=
  let hold : Hold := .start default default ⟨.ofUnits 40 0⟩ "rent" none none .epoch
  [.createAccount .untouched, .applyDelta default (.ofUnits 1005 1), .createHold hold,
    .applyDelta default (.ofUnits (-70) 0),
    .applyDelta default (.ofUnits (-50) 0)].map fun c => (.epoch, c)

theorem overdrawingRun_available_eq :
    ExactOn default empty overdrawingRun ∧
      ∃ a, (empty.afterAll overdrawingRun).accounts.get? default = some a ∧
        a.available.toRat = -19 / 2 ∧ 0 ≤ a.balance.toRat ∧
        a.available.toRat = a.balance.toRat - (empty.afterAll overdrawingRun).reserved default := by
  have hexact : ExactOn default empty overdrawingRun := by decide +kernel
  have hnew : ∀ c ∈ overdrawingRun, c.2.BringsNew := by
    intro c hc
    simp only [overdrawingRun, List.map_cons, List.map_nil, List.mem_cons, List.not_mem_nil,
      or_false] at hc
    rcases hc with rfl | rfl | rfl | rfl | rfl
    · exact ⟨_, _, _, _, _, _, _, rfl⟩
    · trivial
    · exact ⟨by decide, _, _, _, _, _, _, rfl⟩
    · trivial
    · trivial
  rcases hfound : (empty.afterAll overdrawingRun).accounts.get? default with _ | a
  · exact absurd hfound (by decide +kernel)
  · have hmain := balance_nonneg_and_available_eq overdrawingRun hnew default a hfound
    have hvalue : ∀ b ∈ (empty.afterAll overdrawingRun).accounts.get? default,
        b.available.toRat = -19 / 2 := by decide +kernel
    exact ⟨hexact, a, rfl, hvalue a hfound, hmain.1, hmain.2 hexact⟩

end Store

end BankLedger
