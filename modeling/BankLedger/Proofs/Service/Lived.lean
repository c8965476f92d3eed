import BankLedger.Proofs.Service.Chronicle

/-!
# What the Store Has Lived Through

The deeds of a run are known with the answers that were given. An answer is the one that the store
gave as it was at that time, and a refused call has left the store alone, so the deeds lead from the
store at the beginning to the store at the end. What was looked at last is still there.

## Main definitions

* `Store.Lived`: These deeds were done while one store became the other.

## Theorems

* `Lived.append`, `Lived.split`: Deeds one after the other.
* `Lived.row_of_last_look`: A look that is followed by no change shows the row that stays.
* `Chronicle.lived_run`: A run leads from store to store by its deeds.
-/

namespace BankLedger

open Deed

namespace Store

/-- These deeds were done while the first store became the second: what was answered is what the
    store answered as it was then. -/
inductive Lived : Store → List Deed → Store → Prop where
  | nil (s : Store) : Lived s [] s
  | answered {s t u : Store} {time : Instant} {c : Call} {reply : c.Reply} {rest : List Deed}
      (h : s.perform time c = .ok (reply, t)) (hrest : Lived t rest u) :
      Lived s (.asked time c (.ok reply) :: rest) u
  | refused {s u : Store} {time : Instant} {c : Call} {e : LedgerError} {rest : List Deed}
      (hrest : Lived s rest u) : Lived s (.asked time c (.error e) :: rest) u
  | announced {s u : Store} {e : Event} {taken : Bool} {rest : List Deed}
      (hrest : Lived s rest u) : Lived s (.announced e taken :: rest) u

variable {s t u : Store} {deeds later : List Deed}

theorem Lived.append (h : Lived s deeds t) (hlater : Lived t later u) :
    Lived s (deeds ++ later) u := by
  induction h with
  | nil s => exact hlater
  | answered hcall _ ih => exact .answered hcall (ih hlater)
  | refused _ ih => exact .refused (ih hlater)
  | announced _ ih => exact .announced (ih hlater)

/-- Between two parts of the deeds there was a store. -/
theorem Lived.split (h : Lived s (deeds ++ later) u) :
    ∃ t, Lived s deeds t ∧ Lived t later u := by
  induction deeds generalizing s with
  | nil => exact ⟨s, .nil s, h⟩
  | cons d deeds ih =>
      rw [List.cons_append] at h
      cases h with
      | answered hcall hrest =>
          rcases ih hrest with ⟨t, hfirst, hsecond⟩
          exact ⟨t, .answered hcall hfirst, hsecond⟩
      | refused hrest =>
          rcases ih hrest with ⟨t, hfirst, hsecond⟩
          exact ⟨t, .refused hfirst, hsecond⟩
      | announced hrest =>
          rcases ih hrest with ⟨t, hfirst, hsecond⟩
          exact ⟨t, .announced hfirst, hsecond⟩

/-- The changes among the deeds have made the store what it is. -/
theorem Lived.changed (h : Lived s deeds t) : s.Changed (changes deeds) t := by
  induction h with
  | nil s => exact .nil s
  | @answered s t u time c reply rest hcall _ ih =>
      have hfirst := s.changed_after time c
      rw [after_of_perform hcall, hcall] at hfirst
      exact changes_append [_] rest ▸ hfirst.append ih
  | @refused s u time c e rest _ ih =>
      exact changes_append [_] rest ▸ (changes_refused time e).symm ▸ ih
  | announced _ ih => exact ih

/-- A look that was answered showed the row that was there. -/
theorem get?_of_perform {time : Instant} {id : AccountId} {a : Account}
    (h : s.perform time (.getAccount id) = .ok (a, t)) :
    s.accounts.get? id = some a ∧ t = s := by
  rcases (Attempt.map_eq_ok_iff _ _ _).mp h with ⟨b, hfound, heq⟩
  cases heq
  exact ⟨(account_eq_ok_iff s id a).mp hfound, rfl⟩

/-- A look that is followed by no change shows the row that stays. -/
theorem Lived.row_of_last_look {time : Instant} {id : AccountId} {a : Account}
    (h : Lived s (deeds ++ .asked time (.getAccount id) (.ok a) :: later) u)
    (hlater : changes later = []) : u.accounts.get? id = some a := by
  rcases h.split with ⟨t, _, hlook⟩
  cases hlook with
  | answered hcall hrest =>
      rcases get?_of_perform hcall with ⟨ha, rfl⟩
      have hchanged := hrest.changed
      rw [hlater] at hchanged
      rw [hchanged.eq_of_nil]
      exact ha

/-- A look shows what is found under the identifier. -/
theorem Lived.id_of_look {time : Instant} {id : AccountId} {a : Account} (h : Lived s deeds u)
    (hlook : .asked time (.getAccount id) (.ok a) ∈ deeds) : a.id = id := by
  rcases List.append_of_mem hlook with ⟨earlier, later, rfl⟩
  rcases h.split with ⟨t, _, hrest⟩
  cases hrest with
  | answered hcall _ => exact Table.key_of_get? (get?_of_perform hcall).1

end Store

open Store

/-- One step leads from store to store by its deed. -/
theorem Program.lived_step {α : Type} (m : Moment) (w : World) (p : Program α) :
    w.store.Lived (p.deeds m w) (p.step (m.world w) m.refusal).2.store := by
  rw [store_step]
  cases p with
  | call c next =>
      change w.store.Lived [.asked m.clock c (m.answer w.store c)] (m.after w.store c)
      unfold Moment.answer Moment.after
      cases m.refusal with
      | some e => exact .refused (.nil _)
      | none =>
          rcases hrun : w.store.perform m.clock c with e | ⟨reply, t⟩
          · rw [after_of_refused hrun]
            exact .refused (.nil _)
          · rw [after_of_perform hrun]
            exact .answered hrun (.nil _)
  | announce n next => exact .announced (.nil _)
  | done r | draw next | now next | fresh next => exact .nil _

namespace Chronicle

variable {ι : Type} [DecidableEq ι] (moments : ι → Nat → Moment)

/-- A run leads from store to store by its deeds. -/
theorem lived_run (settings : Settings) (w : World) (requests : ι → Request)
    (schedule : List ι) : w.store.Lived ((start settings w requests).run moments schedule).deeds
      ((start settings w requests).run moments schedule).store := by
  refine run_induction (P := fun x => w.store.Lived x.deeds x.store) moments ?_ (.nil _) schedule
  intro x i h
  rw [deeds_step]
  exact h.append (Program.lived_step _ _ _)

end Chronicle

end BankLedger
