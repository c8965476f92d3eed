import BankLedger.Proofs.Service.Lifecycle
import BankLedger.Proofs.Store.Frame

/-!
# Nothing Is Undone

A request may look at an account long before it changes it. If it wrote back what it had seen, it
would undo what other requests have written in the meantime. None of them does so: a request reaches
an account through the calls of the store only, each of them reads the row and writes it in one
step, and it writes no field that it is not for.

The rate shows this best. Accounts are frozen and closed while their rates are set, and a rate that
has been set stays until a request sets another one, however long before the others had begun.

## Theorems

* `Conducted.lasting_run`: No row and no number is lost, and rows stay the same ones.
* `Conducted.rate_run`: A rate stays until a request sets another one.
* `writes_confined`: Both, together with what a single call leaves alone.
-/

namespace BankLedger

open Store

namespace Chronicle

variable {ι : Type} [DecidableEq ι] {settings : Settings} {requests : ι → Request}
  {x : Chronicle ι}

/-- However requests go on, no row and no number is lost, and rows stay the same ones. -/
theorem Conducted.lasting_run (h : x.Conducted settings requests) (moments : ι → Nat → Moment)
    (later : List ι) : x.store.Lasting (x.run moments later).store :=
  h.store_induction (P := x.store.Lasting)
    (fun _ _ _ _ _ _ heffect hlasting => hlasting.trans heffect.lasting) moments (.refl _) later

/-- A turn leaves a rate as it is, or it is the turn of a request that sets it. -/
theorem Conducted.rate_step (h : x.Conducted settings requests) (moments : ι → Nat → Moment)
    (i : ι) {id : AccountId} {a : Account} (ha : x.store.accounts.get? id = some a) :
    ∃ b, (x.step moments i).store.accounts.get? id = some b ∧
      (b.rate = a.rate ∨ ∃ status, requests i = .update id status (some b.rate)) := by
  rcases h.step_cases moments i with ⟨_, hsame⟩ | ⟨_, c, _, _, heffect, hfulfilled, _⟩
  · rw [hsame]
    exact ⟨a, ha, Or.inl rfl⟩
  · rcases heffect.framed.rate_cases ha with ⟨b, hb, hrate⟩
    refine ⟨b, hb, hrate.imp_right ?_⟩
    rintro ⟨status, rfl⟩
    generalize requests i = request at hfulfilled
    cases hfulfilled with
    | amended _ _ => exact ⟨status, rfl⟩

/-- A rate stays until a request sets another one, whatever else is under way. -/
theorem Conducted.rate_run (h : x.Conducted settings requests) (moments : ι → Nat → Moment)
    (later : List ι) {id : AccountId} {a : Account} (ha : x.store.accounts.get? id = some a) :
    ∃ b, (x.run moments later).store.accounts.get? id = some b ∧
      (b.rate = a.rate ∨ ∃ i ∈ later, ∃ status, requests i = .update id status (some b.rate)) := by
  induction later generalizing x a with
  | nil => exact ⟨a, ha, Or.inl rfl⟩
  | cons i later ih =>
      rcases h.rate_step moments i ha with ⟨b, hb, hfirst⟩
      rcases ih (h.step moments i) hb with ⟨b', hb', hlater⟩
      refine ⟨b', hb', ?_⟩
      rcases hlater with hsame | ⟨j, hj, hset⟩
      · rw [hsame]
        exact hfirst.imp_right fun hset => ⟨i, List.mem_cons_self, hset⟩
      · exact Or.inr ⟨j, List.mem_cons_of_mem _ hj, hset⟩

/-- A call writes only what is its own, in any store. So nothing is lost in a run of calls, every
    row stays the same one, and a rate stays until it is set. However requests are interleaved, this
    holds of them as well: a rate that is there stays until a request sets another one, also when
    accounts are frozen and closed by requests that have begun before. -/
theorem writes_confined :
    (∀ (s : Store) now c, s.Framed c (s.after now c)) ∧
    (∀ (s : Store) calls, s.Lasting (s.afterAll calls) ∧
      ∀ id a, s.accounts.get? id = some a → ∃ b, (s.afterAll calls).accounts.get? id = some b ∧
        (b.rate = a.rate ∨ ∃ now status, (now, .amend id status (some b.rate)) ∈ calls)) ∧
    ∀ (settings : Settings) (w : World) (requests : ι → Request) (moments : ι → Nat → Moment)
      (schedule later : List ι) (x : Chronicle ι),
      x = (start settings w requests).run moments schedule →
      x.store.Lasting (x.run moments later).store ∧
      ∀ id a, x.store.accounts.get? id = some a →
        ∃ b, (x.run moments later).store.accounts.get? id = some b ∧
          (b.rate = a.rate ∨
            ∃ i ∈ later, ∃ status, requests i = .update id status (some b.rate)) := by
  refine ⟨framed_after, fun s calls => ⟨s.lasting_afterAll calls, fun _ _ ha =>
    rate_afterAll ha calls⟩, ?_⟩
  rintro settings w requests moments schedule later x rfl
  have hconducted :
      ((start settings w requests).run moments schedule).Conducted settings requests :=
    conducted_run w moments schedule
  exact ⟨hconducted.lasting_run moments later, fun _ _ ha => hconducted.rate_run moments later ha⟩

/-- An account is frozen, which is marked with `true`, while another request sets its rate. -/
def frozenWhileSet (schedule : List Bool) : Chronicle Bool :=
  (start .default (Request.ledgerWith .zero) fun freezing =>
    if freezing then .changeStatus .freeze default
    else .update default none (some (.ofUnits 9 2))).run
      (fun _ _ => ⟨.epoch, 0, 0, none⟩) schedule

/-- The freezing has begun before the rate is set, and leaves the new rate in place. -/
theorem frozenWhileSet_rate : ∃ b,
    (frozenWhileSet [true, false, true]).store.accounts.get? default = some b ∧
    b.status = .frozen ∧ b.rate = .ofUnits 9 2 := by
  have hset : ∀ a ∈ (frozenWhileSet [true, false]).store.accounts.get? default,
      a.rate = .ofUnits 9 2 := by decide +kernel
  have hfrozen : ∀ b ∈ (frozenWhileSet [true, false, true]).store.accounts.get? default,
      b.status = .frozen := by decide +kernel
  rcases ha : (frozenWhileSet [true, false]).store.accounts.get? default with _ | a
  · exact absurd ha (by decide +kernel)
  · rcases (writes_confined.2.2 .default (Request.ledgerWith .zero) _ _ [true, false] [true] _
      rfl).2 default a ha with ⟨b, hb, hrate | ⟨i, hi, _, hupdate⟩⟩
    · exact ⟨b, hb, hfrozen b hb, hrate.trans (hset a ha)⟩
    · rw [List.mem_singleton.mp hi] at hupdate
      cases hupdate

end Chronicle

end BankLedger
