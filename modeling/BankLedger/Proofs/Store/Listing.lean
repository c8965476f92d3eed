import BankLedger.Proofs.Store.Effect
import Mathlib.Data.List.Nodup

/-!
# Listings

The accounts of a customer and the active holds of an account are listed by picking rows of a table
and sorting them, the newest first. A table hands out its rows in some order, and a caller of the
store knows nothing of it: a row may stand before another because it was added first, or because of
how the table is kept. So what a listing promises must not depend on this order.

It cannot promise one list. Rows that were made at the same time may stand in either order, and a
sorting that looks at nothing but the time leaves them as they came. What is promised is every row
that belongs, once, as it is in the store, with no row behind an older one. This determines the list
but for the order of rows that were made at the same time, however the rows are handed out and
however they are sorted.

## Main definitions

* `Table.Enumerates`: The rows of a table in some order.
* `Table.Lists`: What a listing promises.
* `sortedByTime`: Rows sorted by their times and nothing else.
* `SameButTies`: Two lists differ at most in the order of rows that were made at the same time.
* `Table.ListsInAnyOrder`: A listing does not depend on the order of the rows.

## Theorems

* `Table.Lists.sameButTies`: A listing is determined but for ties.
* `Table.Enumerates.lists`: Rows that are picked and sorted are a listing.
* `Store.listings`: What is listed for a customer and for an account.
-/

namespace BankLedger

namespace Instant

instance : Ord Instant := ⟨compare⟩

/-- Instants are compared by their seconds, and then by their nanoseconds. -/
instance : Std.TransOrd Instant :=
  inferInstanceAs (Std.TransCmp (compareLex (compareOn seconds) (compareOn nanos)))

instance : Std.LawfulEqOrd Instant where
  eq_of_compare {a b} h := by
    rcases Ordering.then_eq_eq.mp h with ⟨hseconds, hnanos⟩
    obtain ⟨_, _⟩ := a
    obtain ⟨_, _⟩ := b
    cases Std.LawfulEqOrd.eq_of_compare hseconds
    cases Std.LawfulEqOrd.eq_of_compare hnanos
    rfl

/-- An instant that is not before another is the same or a later one. -/
theorem before_eq_false_iff (a b : Instant) :
    a.before b = false ↔ (Ord.compare b a).isLE = true := by
  have hbefore : a.before b = (Ord.compare a b == .lt) := rfl
  rw [hbefore, beq_eq_false_iff_ne, ← Std.OrientedCmp.isGE_iff_isLE]
  cases Ord.compare a b <;> simp

/-- Of two different instants one is before the other. -/
theorem eq_of_not_before {a b : Instant} (h : a.before b = false) (h' : b.before a = false) :
    a = b := by
  rw [before_eq_false_iff] at h h'
  exact Std.LawfulEqCmp.eq_of_compare (Std.OrientedCmp.isLE_antisymm h' h)

end Instant

namespace Id

variable {subject : Subject}

instance : Ord (Id subject) := ⟨compare⟩

/-- Identifiers are compared as numbers. -/
instance : Std.TransOrd (Id subject) :=
  inferInstanceAs (Std.TransCmp (compareOn fun a : Id subject => a.uuid.value))

end Id

section Sorting

variable {ρ : Type} {createdAt : ρ → Instant}

/-- No row stands behind an older one. -/
def FallsInTime (createdAt : ρ → Instant) (l : List ρ) : Prop :=
  l.Pairwise fun a b => (createdAt a).before (createdAt b) = false

/-- Two lists have the same rows, and in each place rows that were made at the same time. So they
    differ at most in the order of such rows. -/
structure SameButTies (createdAt : ρ → Instant) (l m : List ρ) : Prop where
  perm : l.Perm m
  times : l.map createdAt = m.map createdAt

/-- Rows sorted by their times, the newest first. Those of one time stay in the order in which they
    come. -/
def sortedByTime (createdAt : ρ → Instant) (rows : List ρ) : List ρ :=
  rows.mergeSort fun a b => (createdAt b).compare (createdAt a) != .gt

/-- What is sorted by a comparison is sorted in the sense of the comparison. -/
theorem pairwise_mergeSort_compare (cmp : ρ → ρ → Ordering) [Std.TransCmp cmp] (rows : List ρ) :
    (rows.mergeSort fun a b => cmp a b != .gt).Pairwise fun a b => (cmp a b).isLE = true := by
  have hle (a b : ρ) : (cmp a b != .gt) = (cmp a b).isLE := by cases cmp a b <;> rfl
  simp only [hle]
  refine List.pairwise_mergeSort (fun a b c => Std.TransCmp.isLE_trans) (fun a b => ?_) rows
  rw [@Std.OrientedCmp.eq_swap ρ cmp _ b a]
  cases cmp a b <;> rfl

theorem fallsInTime_sortedByTime (rows : List ρ) :
    FallsInTime createdAt (sortedByTime createdAt rows) := by
  have : Std.TransCmp fun a b => Ord.compare (createdAt a) (createdAt b) :=
    inferInstanceAs (Std.TransCmp (compareOn createdAt))
  refine (pairwise_mergeSort_compare (fun a b => Ord.compare (createdAt b) (createdAt a))
    rows).imp ?_
  exact fun {a b} => (Instant.before_eq_false_iff (createdAt a) (createdAt b)).mpr

/-- Rows that are sorted by time and then by identifier are sorted by time. -/
theorem fallsInTime_newestFirst {subject : Subject} (id : ρ → Id subject) (rows : List ρ) :
    FallsInTime createdAt (newestFirst createdAt id rows) := by
  have : Std.TransCmp fun a b => Ord.compare (createdAt a) (createdAt b) :=
    inferInstanceAs (Std.TransCmp (compareOn createdAt))
  refine (pairwise_mergeSort_compare (compareLex
    (fun a b => Ord.compare (createdAt b) (createdAt a)) (compareOn id)) rows).imp ?_
  intro a b h
  rw [Instant.before_eq_false_iff]
  exact (Ordering.isLE_then_iff_and.mp h).1

end Sorting

namespace Table

variable {κ ρ : Type} [DecidableEq κ] {key : ρ → κ} {createdAt : ρ → Instant} {t u : Table key}

/-- These are the rows of a table in some order. -/
structure Enumerates (t : Table key) (rows : List ρ) : Prop where
  nodup : rows.Nodup
  mem_iff : ∀ r, r ∈ rows ↔ t.get? (key r) = some r

/-- A listing of the rows with a property: each of them once, as the table has it, and no other, and
    none behind an older one. -/
structure Lists (t : Table key) (createdAt : ρ → Instant) (p : ρ → Prop) (l : List ρ) : Prop where
  nodup : l.Nodup
  mem_iff : ∀ r, r ∈ l ↔ t.get? (key r) = some r ∧ p r
  fallsInTime : FallsInTime createdAt l

/-- A table keeps its rows in one of the possible orders. -/
theorem enumerates_rows (t : Table key) : t.Enumerates t.rows where
  nodup := t.distinct.of_map key
  mem_iff _ := ⟨get?_of_mem, mem_of_get?⟩

/-- Rows that are picked from those of a table, in any order, and then sorted are a listing. -/
theorem Enumerates.lists {rows l : List ρ} (h : t.Enumerates rows) (p : ρ → Prop) [DecidablePred p]
    (hperm : l.Perm (rows.filter p)) (hfalls : FallsInTime createdAt l) :
    t.Lists createdAt p l where
  nodup := hperm.nodup_iff.mpr (h.nodup.filter _)
  mem_iff r := by rw [hperm.mem_iff, List.mem_filter, h.mem_iff, decide_eq_true_iff]
  fallsInTime := hfalls

/-- The times of a listing are sorted, and there is only one way to sort them. -/
theorem Lists.sameButTies {p : ρ → Prop} {l m : List ρ} (h : t.Lists createdAt p l)
    (h' : u.Lists createdAt p m) (hrows : ∀ k, u.get? k = t.get? k) :
    SameButTies createdAt l m := by
  have hperm : l.Perm m := by
    refine (List.perm_ext_iff_of_nodup h.nodup h'.nodup).mpr fun r => ?_
    rw [h.mem_iff, h'.mem_iff, hrows]
  refine ⟨hperm, (hperm.map createdAt).eq_of_pairwise (fun _ _ _ _ => Instant.eq_of_not_before)
    ?_ ?_⟩
  · exact List.pairwise_map.mpr h.fallsInTime
  · exact List.pairwise_map.mpr h'.fallsInTime

/-- The same comes, but for ties, of every table with these rows: in whatever order they were added,
    and in whatever order they are handed out, once they are picked and sorted by their times. -/
def ListsInAnyOrder (t : Table key) (createdAt : ρ → Instant) (p : ρ → Prop) [DecidablePred p]
    (l : List ρ) : Prop :=
  ∀ u : Table key, (∀ k, u.get? k = t.get? k) → ∀ rows, u.Enumerates rows →
    SameButTies createdAt l (sortedByTime createdAt (rows.filter p))

theorem Lists.inAnyOrder {p : ρ → Prop} [DecidablePred p] {l : List ρ}
    (h : t.Lists createdAt p l) : t.ListsInAnyOrder createdAt p l := by
  intro u hrows rows henumerates
  have hsorted : u.Lists createdAt p (sortedByTime createdAt (rows.filter p)) :=
    henumerates.lists p (List.mergeSort_perm _ _) (fallsInTime_sortedByTime _)
  exact h.sameButTies hsorted hrows

end Table

namespace Store

variable (s : Store)

theorem lists_accountsOf (customer : CustomerId) : s.accounts.Lists Account.createdAt
    (fun a => a.customer = customer) (s.accountsOf customer) :=
  s.accounts.enumerates_rows.lists _ (List.mergeSort_perm _ _) (fallsInTime_newestFirst _ _)

theorem lists_activeHolds (id : AccountId) : s.holds.Lists Hold.createdAt
    (fun h => h.account = id ∧ h.releasedAt = none) (s.activeHolds id) := by
  have hpicked : (s.holds.rows.filter fun h => h.account = id && h.isActive)
      = s.holds.rows.filter fun h => h.account = id ∧ h.releasedAt = none := by
    refine List.filter_congr fun h _ => ?_
    unfold Hold.isActive
    rw [Bool.decide_and]
    cases h.releasedAt <;> rfl
  exact s.holds.enumerates_rows.lists _ ((List.mergeSort_perm _ _).trans (.of_eq hpicked))
    (fallsInTime_newestFirst _ _)

/-- Listings are complete, exact and ordered in every store, and they do not depend on the order of
    its rows. -/
theorem listings (now : Instant) (customer : CustomerId) (id : AccountId) :
    (∃ accounts, s.perform now (.accountsOf customer) = .ok (accounts, s) ∧
      s.accounts.Lists Account.createdAt (fun a => a.customer = customer) accounts ∧
      s.accounts.ListsInAnyOrder Account.createdAt (fun a => a.customer = customer) accounts) ∧
    ∃ holds, s.perform now (.activeHolds id) = .ok (holds, s) ∧
      s.holds.Lists Hold.createdAt (fun h => h.account = id ∧ h.releasedAt = none) holds ∧
      s.holds.ListsInAnyOrder Hold.createdAt
        (fun h => h.account = id ∧ h.releasedAt = none) holds :=
  ⟨⟨_, rfl, s.lists_accountsOf customer, (s.lists_accountsOf customer).inAnyOrder⟩,
    _, rfl, s.lists_activeHolds id, (s.lists_activeHolds id).inAnyOrder⟩

end Store

end BankLedger
