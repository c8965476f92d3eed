import BankLedger.Proofs.Store.Frame

/-!
# What a Call Looks At

The accounts share one table, their numbers another one, and their holds a third one. A call that
may change the store still looks at very little of it: at the account that it concerns, and at the
number or the hold that it names. What it answers and what it writes depends on nothing else.

So a store is looked at in parts here. A part that has all that a call looks at decides what comes
of the call, and in a part that has none of it nothing is written.

## Main definitions

* `Cells`: A part of a store.
* `Store.concerns`: The account that a call concerns.
* `Store.Agree`: Two stores have the same in a part.
* `Cells.Has`, `Cells.Lacks`: The part has what the call looks at, all of it or none.
* `Store.Alike`: Two answers are the same, and what they lead to agrees.

## Theorems

* `Agree.perform`: What is in the part decides what comes of a call.
* `Cells.Lacks.agree`: Where a call does not look it does not write.
-/

namespace BankLedger

namespace Table

variable {κ ρ : Type} [DecidableEq κ] {key : ρ → κ}

/-- A row is added to two tables alike, if both have the same under its key. -/
theorem insert?_alike {t u : Table key} {r : ρ} (h : t.get? (key r) = u.get? (key r)) :
    t.insert? r = none ∧ u.insert? r = none ∨ ∃ t' u', t.insert? r = some t' ∧
      u.insert? r = some u' ∧ ∀ k, t.get? k = u.get? k → t'.get? k = u'.get? k := by
  rcases hr : t.get? (key r) with _ | old
  · rcases exists_insert? hr with ⟨t', ht'⟩
    rcases exists_insert? (h.symm.trans hr) with ⟨u', hu'⟩
    refine Or.inr ⟨t', u', ht', hu', fun k hk => ?_⟩
    rw [get?_insert? ht', get?_insert? hu', hk]
  · exact Or.inl ⟨(insert?_eq_none_iff t r).mpr ⟨old, hr⟩,
      (insert?_eq_none_iff u r).mpr ⟨old, h.symm.trans hr⟩⟩

end Table

/-- A part of a store: some accounts, some numbers and some holds. -/
structure Cells where
  account : AccountId → Prop
  number : AccountNumber → Prop
  hold : HoldId → Prop

namespace Store

/-- The account that a call concerns: the one that it adds, or the one that it would change. -/
def concerns (s : Store) : Call → Option AccountId
  | .createAccount a => some a.id
  | c => s.about c

/-- Two stores have the same in a part. -/
structure Agree (p : Cells) (s t : Store) : Prop where
  account : ∀ id, p.account id → s.accounts.get? id = t.accounts.get? id
  number : ∀ n, p.number n → s.index.get? n = t.index.get? n
  hold : ∀ k, p.hold k → s.holds.get? k = t.holds.get? k

end Store

namespace Cells

/-- The part has all that a call looks at. -/
structure Has (p : Cells) (s : Store) (c : Call) : Prop where
  account : ∀ id, s.concerns c = some id → p.account id
  number : ∀ n, c.number? = some n → p.number n
  hold : ∀ k, c.hold? = some k → p.hold k

/-- The part has nothing that a call looks at. -/
structure Lacks (p : Cells) (s : Store) (c : Call) : Prop where
  account : ∀ id, p.account id → s.concerns c ≠ some id
  number : ∀ n, p.number n → c.number? ≠ some n
  hold : ∀ k, p.hold k → c.hold? ≠ some k

end Cells

namespace Store

variable {p : Cells} {s t : Store} {now : Instant} {c : Call}

namespace Agree

theorem refl (p : Cells) (s : Store) : Agree p s s :=
  ⟨fun _ _ => rfl, fun _ _ => rfl, fun _ _ => rfl⟩

theorem symm (h : Agree p s t) : Agree p t s :=
  ⟨fun id hid => (h.account id hid).symm, fun n hn => (h.number n hn).symm,
    fun k hk => (h.hold k hk).symm⟩

theorem trans {u : Store} (h : Agree p s t) (h' : Agree p t u) : Agree p s u :=
  ⟨fun id hid => (h.account id hid).trans (h'.account id hid),
    fun n hn => (h.number n hn).trans (h'.number n hn),
    fun k hk => (h.hold k hk).trans (h'.hold k hk)⟩

theorem setAccount (h : Agree p s t) (b : Account) : Agree p (s.setAccount b) (t.setAccount b) where
  account id hid := by
    change (s.accounts.replace b).get? id = (t.accounts.replace b).get? id
    rw [Table.get?_replace, Table.get?_replace, h.account id hid]
  number := h.number
  hold := h.hold

theorem account_eq (h : Agree p s t) {id : AccountId} (hid : p.account id) :
    s.account id = t.account id := by
  unfold Store.account
  rw [h.account id hid]

theorem hold_eq (h : Agree p s t) {k : HoldId} (hk : p.hold k) : s.hold k = t.hold k := by
  unfold Store.hold
  rw [h.hold k hk]

end Agree

/-- Two answers are the same, and the stores that they lead to agree in a part. -/
inductive Alike (p : Cells) {α : Type} :
    Except LedgerError (α × Store) → Except LedgerError (α × Store) → Prop where
  | refused (e : LedgerError) : Alike p (.error e) (.error e)
  | done (r : α) {s t : Store} (h : Agree p s t) : Alike p (.ok (r, s)) (.ok (r, t))

namespace Alike

variable {α β : Type} {x y : Except LedgerError (α × Store)}

theorem map (h : Alike p x y) (f : α → β) :
    Alike p (x.map fun r => (f r.1, r.2)) (y.map fun r => (f r.1, r.2)) := by
  cases h with
  | refused e => exact .refused e
  | done r hagree => exact .done (f r) hagree

theorem answer_eq (h : Alike p x y) : x.map Prod.fst = y.map Prod.fst := by
  cases h with
  | refused e => rfl
  | done r _ => rfl

end Alike

namespace Agree

/-- An account is added alike, if its number and its identifier are in the part. -/
theorem createAccount (h : Agree p s t) {a : Account} (hid : p.account a.id)
    (hnumber : p.number a.number) (now : Instant) :
    Alike p (s.perform now (.createAccount a)) (t.perform now (.createAccount a)) := by
  change Alike p ((s.createAccount a).map ((), ·)) ((t.createAccount a).map ((), ·))
  unfold Store.createAccount
  rcases Table.insert?_alike (r := (a.number, a.id)) (h.number _ hnumber) with
    ⟨hs, ht⟩ | ⟨index, index', hs, ht, hindex⟩
  · rw [hs, ht]
    exact .refused _
  · rw [hs, ht]
    rcases Table.insert?_alike (h.account _ hid) with
      ⟨hs, ht⟩ | ⟨accounts, accounts', hs, ht, haccounts⟩
    · rw [hs, ht]
      exact .refused _
    · rw [hs, ht]
      exact .done () ⟨fun id hid => haccounts id (h.account id hid),
        fun n hn => hindex n (h.number n hn), h.hold⟩

/-- An account is changed alike, if it is in the part. -/
theorem changeAccount (h : Agree p s t) {id : AccountId} (hid : p.account id)
    (f : Account → Except LedgerError Account) :
    Alike p (s.changeAccount id f) (t.changeAccount id f) := by
  unfold Store.changeAccount
  rw [h.account_eq hid]
  rcases t.account id with e | a
  · exact .refused e
  · rw [Attempt.ok_bind, Attempt.ok_bind]
    rcases f a with e | b
    · exact .refused e
    · exact .done b (h.setAccount b)

/-- A hold is added alike, if it is in the part together with its account. -/
theorem createHold (h : Agree p s t) {g : Hold} (hid : p.account g.account) (hk : p.hold g.id)
    (now : Instant) :
    Alike p (s.perform now (.createHold g)) (t.perform now (.createHold g)) := by
  change Alike p ((s.createHold g now).map ((), ·)) ((t.createHold g now).map ((), ·))
  unfold Store.createHold
  rw [h.account_eq hid]
  rcases t.account g.account with e | a
  · exact .refused e
  · rw [Attempt.ok_bind, Attempt.ok_bind]
    rcases Table.insert?_alike (h.hold _ hk) with ⟨hs, ht⟩ | ⟨holds, holds', hs, ht, hholds⟩
    · rw [hs, ht]
      exact .refused _
    · rw [hs, ht]
      rcases a.reserve g.amount now with e | b
      · exact .refused e
      · have hset := h.setAccount b
        exact .done () ⟨hset.account, hset.number, fun k hk => hholds k (h.hold k hk)⟩

/-- A hold is released alike, if it is in the part together with its account. -/
theorem releaseHold (h : Agree p s t) {k : HoldId} (hk : p.hold k)
    (hid : ∀ g, s.holds.get? k = some g → p.account g.account) (now : Instant) :
    Alike p (s.releaseHold k now) (t.releaseHold k now) := by
  unfold Store.releaseHold
  rw [← h.hold_eq hk]
  rcases hg : s.hold k with e | g
  · exact .refused e
  · rw [Attempt.ok_bind, Attempt.ok_bind,
      h.account_eq (hid g ((hold_eq_ok_iff s k g).mp hg))]
    rcases t.account g.account with e | a
    · exact .refused e
    · rw [Attempt.ok_bind, Attempt.ok_bind]
      rcases g.markReleased now with _ | released
      · exact .refused _
      · rcases a.restore g.amount now with e | b
        · exact .refused e
        · have hset := h.setAccount b
          refine .done released ⟨hset.account, hset.number, fun j hj => ?_⟩
          change (s.holds.replace released).get? j = (t.holds.replace released).get? j
          rw [Table.get?_replace, Table.get?_replace, h.hold j hj]

/-- What is in the part decides what comes of a call that may change the store. -/
theorem perform (h : Agree p s t) (hc : p.Has s c) (hmutating : c.isMutating = true)
    (now : Instant) : Alike p (s.perform now c) (t.perform now c) := by
  cases c with
  | createAccount a => exact h.createAccount (hc.account _ rfl) (hc.number _ rfl) now
  | amend id status rate => exact h.changeAccount (hc.account id rfl) _
  | changeStatus id action time => exact h.changeAccount (hc.account id rfl) _
  | applyDelta id delta => exact (h.changeAccount (hc.account id rfl) _).map fun _ => ()
  | createHold g => exact h.createHold (hc.account _ rfl) (hc.hold _ rfl) now
  | releaseHold k time =>
      refine h.releaseHold (hc.hold k rfl) (fun g hg => hc.account _ ?_) time
      exact congrArg (Option.map Hold.account) hg
  | getAccount | getByNumber | accountsOf | getHold | activeHolds => cases hmutating

/-- The answer is the same. -/
theorem answer_eq (h : Agree p s t) (hc : p.Has s c) (hmutating : c.isMutating = true)
    (now : Instant) : (s.perform now c).map Prod.fst = (t.perform now c).map Prod.fst :=
  (h.perform hc hmutating now).answer_eq

/-- What is written is the same as well. -/
theorem after (h : Agree p s t) (hc : p.Has s c) (now : Instant) :
    Agree p (s.after now c) (t.after now c) := by
  cases hmutating : c.isMutating with
  | false =>
      rw [after_of_looking hmutating, after_of_looking hmutating]
      exact h
  | true =>
      have halike := h.perform hc hmutating now
      unfold Store.after
      generalize s.perform now c = x, t.perform now c = y at halike
      cases halike with
      | refused e => exact h
      | done r hagree => exact hagree

end Agree

/-- An account that a call does not concern is left alone. -/
theorem Framed.account_of_ne (h : s.Framed c t) {id : AccountId} (hid : s.concerns c ≠ some id) :
    t.accounts.get? id = s.accounts.get? id := by
  rcases ha : s.accounts.get? id with _ | a
  · rcases hb : t.accounts.get? id with _ | b
    · rfl
    · cases h.newAccount id b ha hb
      exact absurd (congrArg some (Table.key_of_get? hb)) hid
  · rcases h.account id a ha with ⟨b, hb, rfl | ⟨habout, _⟩⟩
    · exact hb
    · cases c with
      | createAccount b => cases habout
      | _ => exact absurd habout hid

end Store

open Store

/-- Where a call does not look it does not write. -/
theorem Cells.Lacks.agree {p : Cells} {s : Store} {c : Call} (h : p.Lacks s c) (now : Instant) :
    Agree p s (s.after now c) := by
  rcases after_cases s now c with hsame | ⟨_, heffect⟩
  · rw [hsame]
    exact .refl p s
  · exact ⟨fun id hid => (heffect.framed.account_of_ne (h.account id hid)).symm,
      fun n hn => (heffect.entry_of_ne (h.number n hn)).symm,
      fun k hk => (heffect.hold_of_ne (h.hold k hk)).symm⟩

end BankLedger
