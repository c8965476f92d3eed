import BankLedger.Proofs.Account.Posting
import BankLedger.Proofs.Store.Reserve
import Mathlib.Algebra.Order.BigOperators.Group.List

/-!
# What Can Be Out of Range

Three of the four postings add to what is available, which may be far below zero: a debit takes its
amount off it even when all of it is set aside, and only a release brings it back. So it is not the
rows at hand that keep their sums in range but their history. Money is set aside only as far as it
is available, and then all that is set aside is no more than the balance at that time, and no more
than the largest decimal ever after. Then a balance of at least zero keeps what is available above
the opposite of the largest decimal, and only putting money on an account can be out of range.

`Covered` carries this along a run. It needs what `Reconciled` needs, that no sum on the account was
rounded so far.

## Main definitions

* `Store.Covered`: The money that is set aside on an account is at most the largest decimal.
* `Store.OnlyCreditsOverflow`: Which postings on an account can be out of range.

## Theorems

* `Account.applyDelta_eq_overflow_iff`: When moving money is out of range.
* `covered_of_effect`, `covered_afterAll`: Every call and every run keeps the money covered.
* `Covered.releaseHold_isOk`: Money that is set aside can always be given back.
* `Covered.onlyCredits`: Only putting money on an account can be out of range.
-/

namespace BankLedger

open Attempt Decimal

/-- The refusal of a sum on an account that is out of range. -/
def LedgerError.overflowOn (id : AccountId) : LedgerError := .invalidArgument (.overflow id)

namespace Account

/-- Moving money is out of range when the balance is, or when the balance can be written and what is
    available is out of range. -/
theorem applyDelta_eq_overflow_iff (a : Account) (delta : Decimal) (now : Instant) :
    a.applyDelta delta now = .error a.overflow ↔
      OutOfRange (a.balance.toRat + delta.toRat) ∨
        0 ≤ a.balance.toRat + delta.toRat ∧ OutOfRange (a.available.toRat + delta.toRat) := by
  unfold applyDelta
  rcases inRange_cases a a.balance delta with ⟨hbalance, hrun⟩ | ⟨balance, hbalance, hsum, hrun⟩
  · rw [hrun, error_bind]
    simp only [hbalance, true_or]
  · rw [hrun, ok_bind, ← add?_nonneg_iff hsum, ← not_isNegative_iff]
    simp only [hbalance, false_or]
    cases balance.isNegative with
    | true => simp [Account.overflow]
    | false =>
        rcases inRange_cases a a.available delta with
          ⟨havailable, hrun'⟩ | ⟨available, havailable, _, hrun'⟩
        · simp [hrun', havailable]
        · simp [hrun', havailable]

/-- An account refuses to move money as out of range in its own name only. -/
theorem id_of_applyDelta_eq_overflowOn {a : Account} {id : AccountId} {delta : Decimal}
    {now : Instant} (h : a.applyDelta delta now = .error (.overflowOn id)) : a.id = id := by
  unfold applyDelta at h
  rcases inRange_cases a a.balance delta with ⟨_, hrun⟩ | ⟨balance, _, _, hrun⟩
  · rw [hrun] at h
    cases h
    rfl
  · rw [hrun, ok_bind] at h
    cases hnegative : balance.isNegative with
    | true =>
        rw [hnegative] at h
        cases h
    | false =>
        rcases inRange_cases a a.available delta with ⟨_, hrun'⟩ | ⟨_, _, _, hrun'⟩
        · rw [hnegative, hrun'] at h
          cases h
          rfl
        · rw [hnegative, hrun'] at h
          cases h

end Account

namespace Store

/-- The money that is set aside on an account is at most the largest decimal. With it goes all that
    keeps it so. -/
structure Covered (s : Store) (id : AccountId) : Prop where
  solvent : Solvent s
  reconciled : Reconciled s id
  amount_pos : ∀ h ∈ s.holds.rows, 0 < h.amount.value.toRat
  reserved_le : s.reserved id ≤ max.toRat

theorem covered_empty (id : AccountId) : Covered empty id where
  solvent := solvent_empty
  reconciled := reconciled_empty id
  amount_pos _ hh := by cases hh
  reserved_le := le_trans (reserved_eq_zero fun _ hg => by cases hg).le
    ((abs_nonneg _).trans (abs_toRat_le zero))

namespace Covered

variable {s : Store} {id : AccountId}

theorem share_nonneg (h : s.Covered id) : ∀ g ∈ s.holds.rows, 0 ≤ share id g := by
  intro g hg
  unfold share
  split
  · exact (h.amount_pos g hg).le
  · exact le_refl 0

theorem reserved_nonneg (h : s.Covered id) : 0 ≤ s.reserved id := by
  rw [reserved_eq_sum_share]
  refine List.sum_nonneg fun x hx => ?_
  rcases List.mem_map.mp hx with ⟨g, hg, rfl⟩
  exact h.share_nonneg g hg

/-- An active hold is part of what is set aside. -/
theorem amount_le_reserved (h : s.Covered id) {g : Hold} (hg : g ∈ s.holds.rows)
    (haccount : g.account = id) (hactive : g.isActive = true) :
    g.amount.value.toRat ≤ s.reserved id := by
  have hshare : share id g = g.amount.value.toRat := by
    rw [share_of_active hactive, if_pos haccount]
  rw [reserved_eq_sum_share, ← hshare]
  refine List.single_le_sum (fun x hx => ?_) _ (List.mem_map_of_mem hg)
  rcases List.mem_map.mp hx with ⟨g', hg', rfl⟩
  exact h.share_nonneg g' hg'

/-- Money is set aside only as far as it is available, so all of it stays within the balance. -/
theorem reserved_add_le (h : s.Covered id) {a b : Account} {amount : Amount} {now : Instant}
    (ha : s.accounts.get? id = some a) (hb : a.reserve amount now = .ok b) :
    s.reserved id + amount.value.toRat ≤ max.toRat := by
  have hle : amount.value.toRat ≤ a.available.toRat := by
    rw [← not_lt, ← lt_iff, ((Account.reserve_eq_ok_iff _ _ _ _).mp hb).1]
    exact Bool.false_ne_true
  have hbalance := (le_abs_self _).trans (abs_toRat_le a.balance)
  have havailable := h.reconciled.available_eq a ha
  linarith

end Covered

/-- Every call keeps the money on an account covered, if its sums there lose nothing. -/
theorem covered_of_effect (id : AccountId) (s t : Store) (now : Instant) (c : Call)
    (hnew : c.BringsNew) (hexact : s.SumsExact id c) (h : Covered s id)
    (heffect : Effect s now c t) : Covered t id := by
  have hsolvent := solvent_of_effect s t now c hnew h.solvent heffect
  have hreconciled := reconciled_of_effect id s t now c hnew hexact h.reconciled heffect
  refine ⟨hsolvent, hreconciled, ?_, ?_⟩
  · intro g hg
    cases heffect with
    | looked _ | opened _ _ | amended _ _ | acted _ _ | moved _ _ => exact h.amount_pos g hg
    | held _ hholds _ =>
        rcases (Table.mem_rows_insert? hholds g).mp hg with hold | rfl
        · exact h.amount_pos g hold
        · exact (isPositive_iff _).mp hnew.1
    | @released _ _ g' _ _ hh _ _ _ =>
        rcases Table.mem_rows_replace hg with hold | rfl
        · exact h.amount_pos g hold
        · exact h.amount_pos g' (Table.mem_of_get? hh)
  · cases heffect with
    | looked _ => exact h.reserved_le
    | opened _ _ | amended _ _ | acted _ _ | moved _ _ =>
        exact (reserved_congr rfl id).trans_le h.reserved_le
    | held ha hholds hb =>
        rcases hnew with ⟨_, _, _, _, _, _, _, hstart⟩
        rw [reserved_insert? hholds (by rw [hstart]; rfl)]
        split
        · next hid => exact h.reserved_add_le (hid ▸ ha) hb
        · exact (add_zero _).trans_le h.reserved_le
    | released hh _ hactive _ =>
        rw [reserved_release hh hactive rfl]
        have hpos := h.amount_pos _ (Table.mem_of_get? hh)
        have hle := h.reserved_le
        split <;> linarith

/-- Every run keeps the money on an account covered, as long as nothing is lost there. -/
theorem covered_afterAll (id : AccountId) {s : Store} (h : Covered s id)
    (calls : List (Instant × Call)) (hnew : ∀ c ∈ calls, c.2.BringsNew)
    (hexact : ExactOn id s calls) : Covered (s.afterAll calls) id :=
  afterAll_exactOn_induction (covered_of_effect id) h calls hnew hexact

theorem perform_eq_notFound {s : Store} {id : AccountId} (h : s.accounts.get? id = none)
    (delta : Decimal) (now : Instant) :
    s.perform now (.applyDelta id delta) = .error (.accountNotFound (.id id)) := by
  change (s.changeAccount id _).map _ = _
  unfold changeAccount account
  rw [h]
  rfl

/-- Moving money is out of range when it is on the account that is found. -/
theorem perform_applyDelta_eq_overflow_iff {s : Store} {id id' : AccountId} {delta : Decimal}
    {now : Instant} : s.perform now (.applyDelta id' delta) = .error (.overflowOn id) ↔
      id' = id ∧ ∃ a, s.accounts.get? id = some a ∧ a.applyDelta delta now = .error a.overflow := by
  rcases hfound : s.accounts.get? id' with _ | a
  · rw [perform_eq_notFound hfound]
    simp only [LedgerError.overflowOn, Except.error.injEq, reduceCtorEq, false_iff]
    rintro ⟨rfl, a, ha, _⟩
    cases hfound.symm.trans ha
  · have hid : a.id = id' := Table.key_of_get? hfound
    rw [perform_applyDelta hfound]
    constructor
    · intro h
      rcases hrun : a.applyDelta delta now with e | b
      · rw [hrun] at h
        cases h
        have hsame := Account.id_of_applyDelta_eq_overflowOn hrun
        rw [← hsame, hid]
        exact ⟨rfl, a, hfound, hrun.trans (by rw [← hsame]; rfl)⟩
      · rw [hrun] at h
        cases h
    · rintro ⟨rfl, a', ha', hrun⟩
      cases hfound.symm.trans ha'
      rw [hrun, map_error, ← hid]
      rfl

/-- Unless the balance is rounded, a balance that would be too large is out of range. -/
theorem perform_applyDelta_of_max_lt {s : Store} {id : AccountId} {a : Account} {amount : Decimal}
    {now : Instant} (ha : s.accounts.get? id = some a) (hexact : a.balance.AddsExactly amount)
    (hlt : max.toRat < a.balance.toRat + amount.toRat) :
    s.perform now (.applyDelta id amount) = .error (.overflowOn id) := by
  refine perform_applyDelta_eq_overflow_iff.mpr ⟨rfl, a, ha, ?_⟩
  refine (Account.applyDelta_eq_overflow_iff _ _ _).mpr (Or.inl ?_)
  rw [← add?_eq_none_iff]
  rcases hsum : a.balance.add? amount with _ | r
  · rfl
  · have hr : r.toRat = a.balance.toRat + amount.toRat := hexact r hsum
    exact absurd (hr ▸ hlt) (not_lt.mpr ((le_abs_self _).trans (abs_toRat_le r)))

/-- Setting an amount aside is never out of range. -/
theorem perform_createHold_ne_overflow (s : Store) (id : AccountId) {h : Hold}
    (hpositive : 0 < h.amount.value.toRat) (now : Instant) :
    s.perform now (.createHold h) ≠ .error (.overflowOn id) := by
  rcases hfound : s.accounts.get? h.account with _ | a
  · change (s.createHold h now).map _ ≠ _
    unfold createHold account
    rw [hfound]
    nofun
  · rcases hins : s.holds.insert? h with _ | holds
    · change (s.createHold h now).map _ ≠ _
      unfold createHold
      rw [(account_eq_ok_iff s _ a).mpr hfound, ok_bind, hins]
      nofun
    · rw [perform_createHold hfound hins]
      rcases a.reserve_cases hpositive now with ⟨_, hrun⟩ | ⟨_, _, _, hrun⟩
      · rw [hrun]
        nofun
      · rw [hrun]
        nofun

namespace Covered

variable {s : Store} {id : AccountId}

/-- What is available is at most the balance, and not below the opposite of the largest decimal. -/
theorem available_bounds (h : s.Covered id) {a : Account} (ha : s.accounts.get? id = some a) :
    -max.toRat ≤ a.available.toRat ∧ a.available.toRat ≤ a.balance.toRat := by
  have havailable := h.reconciled.available_eq a ha
  have hnonneg := h.reserved_nonneg
  have hle := h.reserved_le
  have hbalance := h.solvent id a ha
  constructor <;> linarith

/-- Taking money off an account is never out of range. -/
theorem debit_ne_overflow (h : s.Covered id) {amount : Decimal} (hpositive : 0 < amount.toRat)
    (now : Instant) : s.perform now (.applyDelta id (-amount)) ≠ .error (.overflowOn id) := by
  rw [Ne, perform_applyDelta_eq_overflow_iff]
  rintro ⟨_, a, ha, hoverflow⟩
  have hbalance := h.solvent id a ha
  have hbalance' := (le_abs_self _).trans (abs_toRat_le a.balance)
  have hamount := (le_abs_self _).trans (abs_toRat_le amount)
  have havailable := h.reconciled.available_eq a ha
  have hreserved := h.reserved_nonneg
  have hcovered := h.reserved_le
  rw [Account.applyDelta_eq_overflow_iff, toRat_neg] at hoverflow
  -- Both sums lie between the largest decimal and its opposite.
  rcases hoverflow with hout | ⟨hnonneg, hout⟩
  · exact absurd (max_lt_of_outOfRange hout) (not_lt.mpr (abs_le.mpr ⟨by linarith, by linarith⟩))
  · exact absurd (max_lt_of_outOfRange hout) (not_lt.mpr (abs_le.mpr ⟨by linarith, by linarith⟩))

/-- Putting money on an account is out of range only when the balance would be too large. -/
theorem lt_of_credit_overflow (h : s.Covered id) {a : Account} {amount : Decimal} {now : Instant}
    (ha : s.accounts.get? id = some a) (hpositive : 0 < amount.toRat)
    (hoverflow : s.perform now (.applyDelta id amount) = .error (.overflowOn id)) :
    max.toRat < a.balance.toRat + amount.toRat := by
  rcases perform_applyDelta_eq_overflow_iff.mp hoverflow with ⟨_, a', ha', hrun⟩
  cases ha.symm.trans ha'
  have hbalance := h.solvent id a ha
  have havailable := h.available_bounds ha
  rcases (Account.applyDelta_eq_overflow_iff _ _ _).mp hrun with hout | ⟨_, hout⟩
  · have hlt := max_lt_of_outOfRange hout
    rwa [abs_of_nonneg (by linarith)] at hlt
  · -- What is available is too large as well, because it cannot be that far below zero.
    rcases lt_abs.mp (max_lt_of_outOfRange hout) with hlt | hlt
    · linarith
    · linarith

/-- Giving the amount of an active hold back is in range: what is available then is the balance less
    what the other holds set aside. -/
theorem not_overflows_aside (h : s.Covered id) {a : Account} (ha : s.accounts.get? id = some a)
    {g : Hold} (hg : g ∈ s.holds.rows) (haccount : g.account = id) (hactive : g.isActive = true) :
    ¬ (Posting.aside a g.amount.value).Overflows := by
  have havailable := h.reconciled.available_eq a ha
  have hamount := h.amount_le_reserved hg haccount hactive
  have hpositive := h.amount_pos g hg
  have hbalance := h.solvent _ a ha
  have hbalance' := (le_abs_self _).trans (abs_toRat_le a.balance)
  have hcovered := h.reserved_le
  rw [Posting.aside_overflows_iff]
  have hin : |(Posting.aside a g.amount.value).sum Account.available| ≤ max.toRat := by
    change |a.available.toRat + g.amount.value.toRat| ≤ _
    exact abs_le.mpr ⟨by linarith, by linarith⟩
  exact fun hout => absurd (max_lt_of_outOfRange hout) (not_lt.mpr hin)

/-- The account of a hold is there. -/
theorem exists_account (h : s.Covered id) {g : Hold} (hg : g ∈ s.holds.rows)
    (haccount : g.account = id) : ∃ a, s.accounts.get? id = some a := by
  rcases ha : s.accounts.get? id with _ | a
  · exact absurd haccount (h.reconciled.no_orphan ha g hg)
  · exact ⟨a, rfl⟩

/-- Money that is set aside can always be given back. -/
theorem releaseHold_isOk (h : s.Covered id) {k : HoldId} {g : Hold}
    (hg : s.holds.get? k = some g) (haccount : g.account = id) (hactive : g.isActive = true)
    (time now : Instant) : (s.perform now (.releaseHold k time)).isOk = true := by
  have hmem := Table.mem_of_get? hg
  rcases h.exists_account hmem haccount with ⟨a, ha⟩
  have hrange := h.not_overflows_aside ha hmem haccount hactive
  rw [perform_releaseHold hg (haccount ▸ ha) hactive]
  have houtcome := a.restore_outcome g.amount time
  generalize a.restore g.amount time = x at houtcome
  cases houtcome with
  | refused hadmitted _ => exact absurd trivial hadmitted
  | overflowed _ hout => exact absurd hout hrange
  | written _ _ _ => rfl

/-- Giving money back is never out of range, whichever hold it is about. -/
theorem releaseHold_ne_overflow (h : s.Covered id) (k : HoldId) (time now : Instant) :
    s.perform now (.releaseHold k time) ≠ .error (.overflowOn id) := by
  rcases hg : s.holds.get? k with _ | g
  · change s.releaseHold k time ≠ _
    unfold releaseHold hold
    rw [hg]
    nofun
  · rcases ha : s.accounts.get? g.account with _ | a
    · change s.releaseHold k time ≠ _
      unfold releaseHold account
      rw [(hold_eq_ok_iff s k g).mpr hg, ok_bind, ha]
      nofun
    · cases hactive : g.isActive with
      | false =>
          change s.releaseHold k time ≠ _
          unfold releaseHold Hold.markReleased
          rw [(hold_eq_ok_iff s k g).mpr hg, ok_bind, (account_eq_ok_iff s _ a).mpr ha, ok_bind,
            hactive]
          nofun
      | true =>
          rw [perform_releaseHold hg ha hactive]
          intro hrun
          have hrun' := (map_eq_error_iff _ _ _).mp hrun
          -- The account that refuses would be this one, and here the hold can be released.
          have hid : g.account = id := by
            have houtcome := a.restore_outcome g.amount time
            rw [hrun'] at houtcome
            cases houtcome with
            | refused hadmitted _ => exact absurd trivial hadmitted
            | overflowed _ _ => exact (Table.key_of_get? ha).symm
          have hok := h.releaseHold_isOk hg hid hactive time now
          rw [perform_releaseHold hg ha hactive, hrun] at hok
          cases hok

end Covered

/-- Only putting money on the account can be out of range. -/
structure OnlyCreditsOverflow (s : Store) (id : AccountId) : Prop where
  reserved_le : s.reserved id ≤ max.toRat
  debit : ∀ now amount, 0 < amount.toRat →
    s.perform now (.applyDelta id (-amount)) ≠ .error (.overflowOn id)
  createHold : ∀ now h, 0 < h.amount.value.toRat →
    s.perform now (.createHold h) ≠ .error (.overflowOn id)
  releaseHold : ∀ now time k h, s.holds.get? k = some h → h.account = id → h.isActive = true →
    (s.perform now (.releaseHold k time)).isOk = true
  /-- What is too large is out of range, unless it is rounded to what is not. -/
  credit : ∀ now a amount, s.accounts.get? id = some a → 0 < amount.toRat →
    a.balance.AddsExactly amount →
    (s.perform now (.applyDelta id amount) = .error (.overflowOn id) ↔
      max.toRat < a.balance.toRat + amount.toRat)

theorem Covered.onlyCredits {s : Store} {id : AccountId} (h : s.Covered id) :
    s.OnlyCreditsOverflow id where
  reserved_le := h.reserved_le
  debit now _ hpositive := h.debit_ne_overflow hpositive now
  createHold now _ hpositive := s.perform_createHold_ne_overflow id hpositive now
  releaseHold now time _ _ hg haccount hactive := h.releaseHold_isOk hg haccount hactive time now
  credit _ _ _ ha hpositive hexact :=
    ⟨h.lt_of_credit_overflow ha hpositive, perform_applyDelta_of_max_lt ha hexact⟩

end Store

end BankLedger
