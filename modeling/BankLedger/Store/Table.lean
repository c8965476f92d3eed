/-!
# Tables

A table is a list of rows, each with a key of its own. No two rows have the same key, and that is
part of the type: a row is only added when its key is free, and a row only takes the place of the
one with its key.

## Main definitions

* `Table`: Rows with distinct keys.
* `Table.get?`: The row of a key.
* `Table.insert?`: Adds a row, if its key is free.
* `Table.replace`: Puts a row in the place of the one with its key.

## Theorems

* `Table.get?_insert?`: What is found after a row was added.
* `Table.get?_replace`: What is found after a row was replaced.
-/

namespace BankLedger

/-- Rows with distinct keys. -/
structure Table {κ ρ : Type} (key : ρ → κ) where
  /-- The rows, the oldest first. -/
  rows : List ρ
  /-- No two rows have the same key. -/
  distinct : (rows.map key).Nodup

namespace Table

variable {κ ρ : Type} [DecidableEq κ] {key : ρ → κ}

/-- The table with no row. -/
def empty : Table key := ⟨[], List.nodup_nil⟩

instance : Inhabited (Table key) := ⟨empty⟩

/-- The row of a key. -/
def get? (t : Table key) (k : κ) : Option ρ := t.rows.find? (key · == k)

theorem get?_eq_none_iff (t : Table key) (k : κ) : t.get? k = none ↔ k ∉ t.rows.map key := by
  simp [get?]

/-- Adds a row; `none` when its key is taken. -/
def insert? (t : Table key) (r : ρ) : Option (Table key) :=
  if h : key r ∈ t.rows.map key then none
  else some ⟨t.rows ++ [r], by
    rw [List.map_append, List.nodup_append]
    refine ⟨t.distinct, by simp, ?_⟩
    intro a ha b hb hab
    simp only [List.map_cons, List.map_nil, List.mem_singleton] at hb
    exact h (hb ▸ hab ▸ ha)⟩

theorem map_replace (rows : List ρ) (r : ρ) :
    (rows.map fun s => if key s = key r then r else s).map key = rows.map key := by
  rw [List.map_map]
  apply List.map_congr_left
  intro s _
  by_cases h : key s = key r <;> simp [h]

/-- Puts a row in the place of the one with its key; without such a row nothing changes. -/
def replace (t : Table key) (r : ρ) : Table key :=
  ⟨t.rows.map fun s => if key s = key r then r else s, by rw [map_replace]; exact t.distinct⟩

/-- A row that was added is found under its key, and all others as before. -/
theorem get?_insert? {t u : Table key} {r : ρ} (h : t.insert? r = some u) (k : κ) :
    u.get? k = if key r = k then some r else t.get? k := by
  unfold insert? at h
  split at h
  · cases h
  · next hr =>
      cases h
      have hn := (get?_eq_none_iff t (key r)).2 hr
      unfold get? at hn ⊢
      rw [List.find?_append]
      by_cases hk : key r = k
      · subst hk
        simp [hn]
      · simp [hk]

/-- A row that was replaced is found under its key, if there was one, and all others as before. -/
theorem get?_replace (t : Table key) (r : ρ) (k : κ) :
    (t.replace r).get? k = if key r = k then (t.get? k).map (fun _ => r) else t.get? k := by
  unfold replace get?
  simp only
  induction t.rows with
  | nil => simp
  | cons s rest ih =>
      by_cases hs : key s = key r <;> by_cases hk : key r = k <;> by_cases hsk : key s = k <;>
        simp_all

end Table

end BankLedger
