import BankLedger.Store.Table
import Mathlib.Algebra.Order.Field.Rat
import Mathlib.Tactic.Linarith

/-!
# Rows of a Table

What the operations of a table do to its rows, and to totals over them. A total over a table changes
by one row at a time: an added row comes on top, and a row that takes the place of another changes
the total by the difference of the two. The second of these rests on the keys being distinct,
without which more than one row would be replaced.

## Theorems

* `exists_insert?`: A row with a free key can be added.
* `rows_insert?`: An added row comes last.
* `mem_rows_replace`: The rows after one was replaced.
* `get?_replace_of_get?`: What is found after a row took the place of another.
* `replace_replace`, `replace_comm`: Two rows one after the other.
* `sum_insert?`: A total over the rows after one was added.
* `sum_replace`: A total over the rows after one was replaced.
-/

namespace BankLedger

namespace Table

variable {κ ρ : Type} [DecidableEq κ] {key : ρ → κ}

theorem key_of_get? {t : Table key} {k : κ} {r : ρ} (h : t.get? k = some r) : key r = k := by
  have hfound := List.find?_some h
  simpa only [beq_iff_eq] using hfound

theorem mem_of_get? {t : Table key} {k : κ} {r : ρ} (h : t.get? k = some r) : r ∈ t.rows :=
  List.mem_of_find?_eq_some h

/-- A row is found under its key, because no other row has it. -/
theorem get?_of_mem {t : Table key} {r : ρ} (h : r ∈ t.rows) : t.get? (key r) = some r := by
  have hdistinct := t.distinct
  unfold get?
  generalize t.rows = rows at h hdistinct ⊢
  induction rows with
  | nil => cases h
  | cons s rest ih =>
      rw [List.map_cons, List.nodup_cons] at hdistinct
      rw [List.find?_cons]
      rcases List.mem_cons.mp h with rfl | hlater
      · rw [beq_self_eq_true]
      · have hne : key s ≠ key r := fun heq =>
          hdistinct.1 (heq ▸ List.mem_map_of_mem hlater)
        rw [beq_false_of_ne hne]
        exact ih hlater hdistinct.2

theorem exists_insert? {t : Table key} {r : ρ} (h : t.get? (key r) = none) :
    ∃ u, t.insert? r = some u := by
  unfold insert?
  rw [dif_neg ((get?_eq_none_iff t (key r)).mp h)]
  exact ⟨_, rfl⟩

theorem get?_eq_none_of_insert? {t u : Table key} {r : ρ} (h : t.insert? r = some u) :
    t.get? (key r) = none := by
  unfold insert? at h
  split at h
  · cases h
  · next hfree => exact (get?_eq_none_iff t (key r)).mpr hfree

theorem insert?_eq_none_iff (t : Table key) (r : ρ) :
    t.insert? r = none ↔ ∃ s, t.get? (key r) = some s := by
  rcases hfound : t.get? (key r) with _ | s
  · rcases exists_insert? hfound with ⟨u, hu⟩
    simp only [hu, reduceCtorEq, exists_false]
  · simp only [Option.some.injEq, exists_eq', iff_true]
    rcases hins : t.insert? r with _ | u
    · rfl
    · rw [get?_eq_none_of_insert? hins] at hfound
      cases hfound

theorem rows_insert? {t u : Table key} {r : ρ} (h : t.insert? r = some u) :
    u.rows = t.rows ++ [r] := by
  unfold insert? at h
  split at h
  · cases h
  · cases h
    rfl

theorem mem_rows_insert? {t u : Table key} {r : ρ} (h : t.insert? r = some u) (s : ρ) :
    s ∈ u.rows ↔ s ∈ t.rows ∨ s = r := by
  rw [rows_insert? h, List.mem_append, List.mem_singleton]

theorem mem_rows_replace {t : Table key} {r s : ρ} (h : s ∈ (t.replace r).rows) :
    s ∈ t.rows ∨ s = r := by
  rcases List.mem_map.mp h with ⟨old, hold, heq⟩
  split at heq
  · exact Or.inr heq.symm
  · exact Or.inl (heq ▸ hold)

theorem get?_replace_eq_none_iff (t : Table key) (r : ρ) (k : κ) :
    (t.replace r).get? k = none ↔ t.get? k = none := by
  rw [get?_replace]
  split
  · exact Option.map_eq_none_iff
  · rfl

/-- What is found after a row took the place of another with its key. -/
theorem get?_replace_of_get? {t : Table key} {k : κ} {r old : ρ} (hold : t.get? k = some old)
    (hr : key r = k) (j : κ) :
    (t.replace r).get? j = if k = j then some r else t.get? j := by
  rw [get?_replace, hr]
  by_cases hj : k = j
  · subst hj
    rw [if_pos rfl, if_pos rfl, hold, Option.map_some]
  · rw [if_neg hj, if_neg hj]

/-- Of two rows with one key the later one counts. -/
theorem replace_replace (t : Table key) {r r' : ρ} (h : key r' = key r) :
    (t.replace r).replace r' = t.replace r' := by
  unfold replace
  congr 1
  rw [List.map_map]
  refine List.map_congr_left fun s _ => ?_
  by_cases hs : key s = key r
  · simp [hs, h]
  · simp [hs, h]

/-- Rows with different keys may be replaced in either order. -/
theorem replace_comm (t : Table key) {r r' : ρ} (h : key r ≠ key r') :
    (t.replace r).replace r' = (t.replace r').replace r := by
  unfold replace
  congr 1
  rw [List.map_map, List.map_map]
  refine List.map_congr_left fun s _ => ?_
  by_cases hs : key s = key r
  · simp [hs, h]
  · by_cases hs' : key s = key r'
    · simp [hs', Ne.symm h]
    · simp [hs, hs']

/-- An added row comes on top of the total. -/
theorem sum_insert? (f : ρ → ℚ) {t u : Table key} {r : ρ} (h : t.insert? r = some u) :
    (u.rows.map f).sum = (t.rows.map f).sum + f r := by
  rw [rows_insert? h, List.map_append, List.sum_append, List.map_singleton, List.sum_singleton]

/-- Replacing touches no row when none has the key. -/
theorem map_replace_of_not_mem {rows : List ρ} {r : ρ} (h : key r ∉ rows.map key) :
    (rows.map fun s => if key s = key r then r else s) = rows := by
  rw [List.map_congr_left (g := id), List.map_id]
  intro s hs
  have hne : key s ≠ key r := fun heq => h (heq ▸ List.mem_map_of_mem hs)
  rw [if_neg hne, id]

/-- A row that takes the place of another changes the total by the difference of the two. -/
theorem sum_replace (f : ρ → ℚ) {t : Table key} {r old : ρ} (h : t.get? (key r) = some old) :
    ((t.replace r).rows.map f).sum = (t.rows.map f).sum - f old + f r := by
  have hmem := mem_of_get? h
  have hkey := key_of_get? h
  have hdistinct := t.distinct
  unfold replace
  simp only
  -- By induction on the rows: of the table only that its keys are distinct is kept.
  generalize t.rows = rows at hmem hdistinct ⊢
  induction rows with
  | nil => cases hmem
  | cons s rest ih =>
      rw [List.map_cons, List.nodup_cons] at hdistinct
      rcases hdistinct with ⟨hfresh, hrest⟩
      simp only [List.map_cons, List.sum_cons]
      by_cases hs : key s = key r
      · -- This is the row that is replaced, and no other has its key.
        have hold : old = s := by
          rcases List.mem_cons.mp hmem with rfl | hlater
          · rfl
          · exact absurd (List.mem_map.mpr ⟨old, hlater, hkey.trans hs.symm⟩) hfresh
        rw [if_pos hs, map_replace_of_not_mem (hs ▸ hfresh), hold]
        linarith
      · have hlater : old ∈ rest := by
          rcases List.mem_cons.mp hmem with rfl | hlater
          · exact absurd hkey hs
          · exact hlater
        rw [if_neg hs, ih hlater hrest]
        linarith

end Table

end BankLedger
