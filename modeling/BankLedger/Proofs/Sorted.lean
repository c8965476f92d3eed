import BankLedger.Sorted
import Mathlib.Data.String.Basic

/-!
# Sorted Lists

What a value under a name does to a list, and that the lists stay sorted. The order makes the list
of some named values the only one with these values, but a value is found without it: only the first
one under a name counts.

## Main definitions

* `Sorted.Distinct`: No two names stand for the same value.

## Theorems

* `Sorted.lookup_insert`: A value is found under its name, and all others as before.
* `Sorted.Distinct.update`: A name is given a value that no other name stands for.
* `Sorted.pairwise_insert`, `Sorted.pairwise_ofList`: The names rise.
* `Sorted.ofList_eq_self`: Values whose names rise are sorted already.
-/

namespace BankLedger

namespace Sorted

variable {α : Type} {name : String} {value : α} {l : List (String × α)}

theorem lookup_cons_eq (m n : String) (v : α) :
    ((m, v) :: l).lookup n = if m = n then some v else l.lookup n := by
  rw [List.lookup_cons]
  by_cases h : m = n
  · rw [if_pos h, h, beq_self_eq_true]
  · rw [if_neg h, beq_false_of_ne (Ne.symm h)]

-- By induction on the list, with a case for each way in which the name can stand to the first one.
-- The order plays no part: only the first entry under a name counts, and it is the new one.
/-- A value is found under its name, and all others as before. -/
theorem lookup_insert (n : String) :
    (insert name value l).lookup n = if name = n then some value else l.lookup n := by
  induction l with
  | nil => exact lookup_cons_eq name n value
  | cons entry rest ih =>
      rcases entry with ⟨m, v⟩
      unfold insert
      split
      · exact lookup_cons_eq name n value
      · split
        · next hname =>
            subst hname
            rw [lookup_cons_eq, lookup_cons_eq]
            split <;> rfl
        · next hname =>
            rw [lookup_cons_eq, lookup_cons_eq, ih]
            by_cases hm : m = n
            · rw [if_pos hm, if_pos hm, if_neg (hm ▸ hname)]
            · rw [if_neg hm, if_neg hm]

/-- A value under a name that is free hides no other one. -/
theorem lookup_insert_of_free (hfree : l.lookup name = none) {n : String} {v : α}
    (hv : l.lookup n = some v) : (insert name value l).lookup n = some v := by
  rw [lookup_insert, if_neg, hv]
  rintro rfl
  cases hfree.symm.trans hv

theorem mem_insert {entry : String × α} (h : entry ∈ insert name value l) :
    entry = (name, value) ∨ entry ∈ l := by
  induction l with
  | nil => exact Or.inl (List.mem_singleton.mp h)
  | cons first rest ih =>
      unfold insert at h
      split at h
      · exact List.mem_cons.mp h
      · split at h
        · exact (List.mem_cons.mp h).imp_right (List.mem_cons_of_mem _)
        · rcases List.mem_cons.mp h with hfirst | hrest
          · exact Or.inr (hfirst ▸ List.mem_cons_self)
          · exact (ih hrest).imp_right (List.mem_cons_of_mem _)

/-- No two names stand for the same value. -/
def Distinct (l : List (String × α)) : Prop :=
  ∀ m n v, l.lookup m = some v → l.lookup n = some v → m = n

/-- A name may be given a value that no other name stands for. -/
theorem Distinct.update {l' : List (String × α)} (h : Distinct l)
    (hlookup : ∀ n, l'.lookup n = if name = n then some value else l.lookup n)
    (hvalue : ∀ n, l.lookup n = some value → n = name) : Distinct l' := by
  intro m n v hm hn
  rw [hlookup] at hm hn
  split at hm
  · next hname =>
      subst hname
      cases hm
      split at hn
      · next hname => exact hname
      · exact (hvalue n hn).symm
  · split at hn
    · next hname =>
        subst hname
        cases hn
        exact hvalue m hm
    · exact h m n v hm hn

/-- The names stay in rising order. -/
theorem pairwise_insert (h : l.Pairwise (·.1 < ·.1)) :
    (insert name value l).Pairwise (·.1 < ·.1) := by
  induction l with
  | nil => exact List.pairwise_singleton _ _
  | cons first rest ih =>
      rcases List.pairwise_cons.mp h with ⟨hfirst, hrest⟩
      unfold insert
      split
      · next hlt =>
          refine List.pairwise_cons.mpr ⟨fun entry hentry => ?_, h⟩
          rcases List.mem_cons.mp hentry with rfl | hlater
          · exact hlt
          · exact hlt.trans (hfirst entry hlater)
      · split
        · next hlt hname =>
            subst hname
            exact List.pairwise_cons.mpr ⟨hfirst, hrest⟩
        · next hlt hname =>
            refine List.pairwise_cons.mpr ⟨fun entry hentry => ?_, ih hrest⟩
            rcases mem_insert hentry with rfl | hold
            · exact lt_of_le_of_ne (not_lt.mp hlt) (Ne.symm hname)
            · exact hfirst entry hold

/-- Every value is found under its name. -/
theorem lookup_of_mem (h : l.Pairwise (·.1 < ·.1)) (hmem : (name, value) ∈ l) :
    l.lookup name = some value := by
  induction l with
  | nil => cases hmem
  | cons first rest ih =>
      rcases first with ⟨m, v⟩
      rcases List.pairwise_cons.mp h with ⟨hfirst, hrest⟩
      rw [lookup_cons_eq]
      rcases List.mem_cons.mp hmem with heq | hlater
      · cases heq
        exact if_pos rfl
      · rw [if_neg (hfirst _ hlater).ne, ih hrest hlater]

theorem mem_of_lookup (h : l.lookup name = some value) : (name, value) ∈ l := by
  rcases List.lookup_eq_some_iff.mp h with ⟨before, after, rfl, _⟩
  simp

/-- A name behind all others is put at the end. -/
theorem insert_eq_append (h : ∀ entry ∈ l, entry.1 < name) :
    insert name value l = l ++ [(name, value)] := by
  induction l with
  | nil => rfl
  | cons entry rest ih =>
      have hfirst := h entry List.mem_cons_self
      rw [insert, if_neg (lt_asymm hfirst), if_neg (ne_of_gt hfirst),
        ih fun e he => h e (List.mem_cons_of_mem _ he), List.cons_append]

theorem foldl_insert_eq_append {done : List (String × α)}
    (h : (done ++ l).Pairwise (·.1 < ·.1)) :
    l.foldl (fun sorted v => insert v.1 v.2 sorted) done = done ++ l := by
  induction l generalizing done with
  | nil => exact (List.append_nil done).symm
  | cons v vs ih =>
      have hlast : ∀ entry ∈ done, entry.1 < v.1 := fun entry hentry =>
        (List.pairwise_append.mp h).2.2 entry hentry v List.mem_cons_self
      have hassoc : done ++ [v] ++ vs = done ++ v :: vs := by
        rw [List.append_assoc, List.singleton_append]
      rw [List.foldl_cons, insert_eq_append hlast, ← hassoc]
      exact ih (hassoc ▸ h)

/-- Values whose names rise are sorted already. -/
theorem ofList_eq_self (h : l.Pairwise (·.1 < ·.1)) : ofList l = l := by
  rw [← List.nil_append l] at h
  exact foldl_insert_eq_append h

-- Both follow the values that are put in one after the other, for any that are there already.
theorem pairwise_foldl_insert {done : List (String × α)} (h : done.Pairwise (·.1 < ·.1)) :
    (l.foldl (fun sorted v => insert v.1 v.2 sorted) done).Pairwise (·.1 < ·.1) := by
  induction l generalizing done with
  | nil => exact h
  | cons v vs ih => exact ih (pairwise_insert h)

theorem mem_foldl_insert {done : List (String × α)} {entry : String × α}
    (h : entry ∈ l.foldl (fun sorted v => insert v.1 v.2 sorted) done) :
    entry ∈ done ∨ entry ∈ l := by
  induction l generalizing done with
  | nil => exact Or.inl h
  | cons v vs ih =>
      rcases ih h with hdone | hlater
      · rcases mem_insert hdone with rfl | hold
        · exact Or.inr List.mem_cons_self
        · exact Or.inl hold
      · exact Or.inr (List.mem_cons_of_mem _ hlater)

/-- Sorted values have rising names. -/
theorem pairwise_ofList (l : List (String × α)) : (ofList l).Pairwise (·.1 < ·.1) :=
  pairwise_foldl_insert List.Pairwise.nil

/-- Sorting brings nothing new. -/
theorem mem_of_mem_ofList {entry : String × α} (h : entry ∈ ofList l) : entry ∈ l :=
  (mem_foldl_insert h).resolve_left List.not_mem_nil

end Sorted

end BankLedger
