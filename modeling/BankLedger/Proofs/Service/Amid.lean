import BankLedger.Proofs.Service.Attempts

/-!
# Programs Amid Others

A program seldom has the store to itself. Between any two of its steps the calls of others reach the
store, any number of them, and before its first step and behind its last one too; the clock goes on,
identifiers and numbers are used up, and the store may fail to answer. `Program.EndsAmid` takes all
of this as it comes, so it holds of whatever may come of a program. Only the kind of the calls that
others make is limited, by what the program may rely on.

What the program itself does is known from what it keeps. So its run is told by the calls with which
it changed the store, and the work of others stands before them, between them and behind them.

## Main definitions

* `Store.Shared`: A store that came of another by some calls, amid those of others.
* `Program.EndsAmid`: What may come of a program amid others.

## Theorems

* `Store.Shared.preserves`: What others leave alone stays when nothing else is done.
* `Store.Shared.single`: Others come before a change and after it.
* `Program.EndsAmid.exists_deeds`: What a program does amid others.
* `Program.endsAmid_run`: Every run in a surrounding is one amid others.
-/

namespace BankLedger

open Deed

namespace Store

variable {others : Call → Prop} {s t : Store} {now : Instant} {c : Call}

/-- The second store came of the first by these calls, each of which succeeded, and by calls of
    others before, between and behind them. -/
inductive Shared (others : Call → Prop) : Store → List (Instant × Call) → Store → Prop where
  | nil (s : Store) : Shared others s [] s
  | own {s t u : Store} {now : Instant} {c : Call} {reply : c.Reply} {rest : List (Instant × Call)}
      (h : s.perform now c = .ok (reply, t)) (hrest : Shared others t rest u) :
      Shared others s ((now, c) :: rest) u
  | other {s t : Store} {now : Instant} {c : Call} {calls : List (Instant × Call)} (hc : others c)
      (hrest : Shared others (s.after now c) calls t) : Shared others s calls t

theorem Shared.trans {u : Store} {calls later : List (Instant × Call)}
    (h : Shared others s calls t) (hlater : Shared others t later u) :
    Shared others s (calls ++ later) u := by
  induction h with
  | nil s => exact hlater
  | own hcall _ ih => exact .own hcall (ih hlater)
  | other hc _ ih => exact .other hc (ih hlater)

theorem Changed.shared {calls : List (Instant × Call)} (h : Changed s calls t) :
    Shared others s calls t := by
  induction h with
  | nil s => exact .nil s
  | cons hcall _ ih => exact .own hcall ih

theorem shared_afterAll (s : Store) {calls : List (Instant × Call)} (h : ∀ c ∈ calls, others c.2) :
    Shared others s [] (s.afterAll calls) := by
  induction calls generalizing s with
  | nil => exact .nil s
  | cons c rest ih =>
      exact .other (h c List.mem_cons_self) (ih _ fun d hd => h d (List.mem_cons_of_mem _ hd))

/-- What others leave alone stays when nothing else is done. -/
theorem Shared.preserves {P : Store → Prop} (h : Shared others s [] t)
    (hstep : ∀ s now c, others c → P s → P (s.after now c)) (hs : P s) : P t := by
  generalize hcalls : ([] : List (Instant × Call)) = calls at h
  induction h with
  | nil s => exact hs
  | own _ _ _ => cases hcalls
  | other hc _ ih => exact ih (hstep _ _ _ hc hs) hcalls

/-- Others come before a change and after it. -/
theorem Shared.single (h : Shared others s [(now, c)] t) :
    ∃ u v, Shared others s [] u ∧ Effect u now c v ∧ Shared others v [] t := by
  generalize hcalls : [(now, c)] = calls at h
  induction h with
  | nil s => cases hcalls
  | own hcall hrest _ =>
      cases hcalls
      exact ⟨_, _, .nil _, effect_of_perform hcall, hrest⟩
  | other hc _ ih =>
      rcases ih hcalls with ⟨u, v, hu, heffect, hv⟩
      exact ⟨u, v, .other hc hu, heffect, hv⟩

end Store

namespace Program

variable {α : Type} {others : Call → Prop} {busy : List Deed → List Call → Prop}
  {ends ends' : List Deed → Except LedgerError α → Prop}

/-- What may come of a program, and the store then. Its steps meet any moments, and between them the
    calls of others reach the store. -/
inductive EndsAmid (others : Call → Prop) :
    Program α → Store → Except LedgerError α → Store → Prop where
  | done (r : Except LedgerError α) (s : Store) : EndsAmid others (.done r) s r s
  | other {p : Program α} {s t : Store} {r : Except LedgerError α} {now : Instant} {c : Call}
      (hc : others c) (h : EndsAmid others p (s.after now c) r t) : EndsAmid others p s r t
  | call {c : Call} {next : Except LedgerError c.Reply → Program α} {s t : Store}
      {r : Except LedgerError α} (m : Moment)
      (h : EndsAmid others (next (m.answer s c)) (m.after s c) r t) :
      EndsAmid others (.call c next) s r t
  | draw {next : Except LedgerError AccountNumber → Program α} {s t : Store}
      {r : Except LedgerError α} (n : Except LedgerError AccountNumber)
      (h : EndsAmid others (next n) s r t) : EndsAmid others (.draw next) s r t
  | now {next : Instant → Program α} {s t : Store} {r : Except LedgerError α} (time : Instant)
      (h : EndsAmid others (next time) s r t) : EndsAmid others (.now next) s r t
  | fresh {next : Uuid → Program α} {s t : Store} {r : Except LedgerError α} (u : Uuid)
      (h : EndsAmid others (next u) s r t) : EndsAmid others (.fresh next) s r t
  | announce {n : Notice} {next : Program α} {s t : Store} {r : Except LedgerError α}
      (h : EndsAmid others next s r t) : EndsAmid others (.announce n next) s r t

/-- What holds at the end by `ends` may be weakened. -/
theorem Keeps.imp {p : Program α} {deeds : List Deed} (h : p.Keeps busy ends deeds)
    (himp : ∀ deeds r, ends deeds r → ends' deeds r) : p.Keeps busy ends' deeds := by
  induction p generalizing deeds with
  | done r => exact himp deeds r h
  | call c next ih => exact ⟨h.1, fun time answer => ih answer (h.2 time answer)⟩
  | draw next ih => exact ⟨h.1, fun n => ih n (h.2 n)⟩
  | now next ih => exact ⟨h.1, fun t => ih t (h.2 t)⟩
  | fresh next ih => exact ⟨h.1, fun u => ih u (h.2 u)⟩
  | announce n next ih => exact ⟨h.1, fun id time taken => ih (h.2 id time taken)⟩

-- By induction on what comes of the program. The deeds so far are generalised, because each call
-- adds to them, and what others do adds nothing.
/-- A program ends as it may, after deeds that, amid others, made the store what it is then. -/
theorem EndsAmid.exists_deeds {p : Program α} {s t : Store} {r : Except LedgerError α}
    (h : p.EndsAmid others s r t) {deeds : List Deed} (hkeeps : p.Keeps busy ends deeds) :
    ∃ more, ends (deeds ++ more) r ∧ s.Shared others (changes more) t := by
  induction h generalizing deeds with
  | done r s =>
      refine ⟨[], ?_, .nil s⟩
      rw [List.append_nil]
      exact hkeeps
  | other hc _ ih =>
      rcases ih hkeeps with ⟨more, hends, hshared⟩
      exact ⟨more, hends, .other hc hshared⟩
  | @call c next s t r m _ ih =>
      rcases ih (hkeeps.2 m.clock _) with ⟨more, hends, hshared⟩
      refine ⟨.asked m.clock c (m.answer s c) :: more, ?_, ?_⟩
      · rw [List.append_cons]
        exact hends
      · exact changes_append [_] more ▸ (m.changed_after s c).shared.trans hshared
  | draw n _ ih => exact ih (hkeeps.2 n)
  | now time _ ih => exact ih (hkeeps.2 time)
  | fresh u _ ih => exact ih (hkeeps.2 u)
  | announce _ ih =>
      rcases ih (hkeeps.2 default default true) with ⟨more, hends, hshared⟩
      rw [List.append_assoc] at hends
      exact ⟨_, hends, hshared⟩

/-- The calls of others may come before all steps of a program. -/
theorem EndsAmid.after_asked {p : Program α} {r : Except LedgerError α} {w : World} {t : Store}
    {calls : List Call} (hcalls : ∀ c ∈ calls, others c)
    (h : p.EndsAmid others (w.asked calls).store r t) : p.EndsAmid others w.store r t := by
  unfold World.asked at h
  induction calls generalizing w with
  | nil => exact h
  | cons c rest ih =>
      have hlater : p.EndsAmid others (w.store.after w.clock c) r t := by
        rw [← World.store_ask]
        exact ih (fun d hd => hcalls d (List.mem_cons_of_mem _ hd)) h
      exact .other (hcalls c List.mem_cons_self) hlater

/-- The run of a program in a surrounding is one amid those who come before its calls. -/
theorem endsAmid_run {around : Surrounding}
    (hothers : ∀ made c, ∀ d ∈ (around made c).before, others d) (p : Program α)
    (made : List Call) (w : World) :
    p.EndsAmid others w.store (p.run around made w).1 (p.run around made w).2.store := by
  induction p generalizing made w with
  | done r => exact .done r w.store
  | call c next ih =>
      refine EndsAmid.after_asked (hothers made c) ?_
      cases hrefusal : (around made c).refusal with
      | some e =>
          refine .call ⟨w.clock, 0, 0, some e⟩ ?_
          unfold run
          simp only [hrefusal]
          exact ih _ _ _
      | none =>
          refine .call ⟨(w.asked (around made c).before).clock, 0, 0, none⟩ ?_
          have hanswer := World.ask_fst (w.asked (around made c).before) c
          have hstore := World.store_ask (w.asked (around made c).before) c
          rw [run_call hrefusal]
          unfold Moment.answer Moment.after
          simp only
          rw [← hanswer, ← hstore]
          exact ih _ _ _
  | draw next ih => exact .draw _ (ih _ made w.draw.2)
  | now next ih => exact .now _ (ih _ made w.tick.2)
  | fresh next ih => exact .fresh _ (ih _ made w.fresh.2)
  | announce n next ih => exact .announce (ih made (w.announce n))

end Program

end BankLedger
