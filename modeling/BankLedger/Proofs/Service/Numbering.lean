import BankLedger.Proofs.Service.Conservation
import BankLedger.Proofs.Service.Lived
import BankLedger.Proofs.Service.Release
import BankLedger.Proofs.Store.Index

/-!
# Accounts Opened Together

Requests that open accounts draw their numbers on their own, and nothing keeps two of them from
drawing the same one. The store decides: it takes the number once, and whoever comes second is
refused and has to draw again. So two requests that both succeed have opened two accounts with two
numbers, however far the one had come when the other made its call.

## Theorems

* `Lived.ne_of_created`: Of two accounts that were added, neither has the number of the other.
* `Chronicle.created_of_answered`: An account that was opened was added.
* `Chronicle.numbers_distinct`: No number is given twice.
-/

namespace BankLedger

open Deed

namespace Store

variable {s u : Store} {a b : Account} {time time' : Instant}

/-- An account that was added is in the store, and its number leads to it. -/
theorem rows_of_created {t : Store} {reply : Unit}
    (h : s.perform time (.createAccount a) = .ok (reply, t)) :
    t.accounts.get? a.id = some a ∧ t.index.get? a.number = some (a.number, a.id) := by
  rcases (Attempt.map_eq_ok_iff _ _ _).mp h with ⟨t', ht', heq⟩
  cases heq
  rcases (createAccount_eq_ok_iff s t a).mp ht' with ⟨index, accounts, hindex, haccounts, rfl⟩
  exact ⟨(Table.get?_insert? haccounts a.id).trans (if_pos rfl),
    (Table.get?_insert? hindex a.number).trans (if_pos rfl)⟩

/-- Of two accounts that were added one after the other, neither has the number or the identifier of
    the other, whatever was done in between. -/
theorem Lived.ne_of_created {earlier between later : List Deed} {reply reply' : Unit}
    (h : Lived s (earlier ++ .asked time (.createAccount a) (.ok reply) ::
      (between ++ .asked time' (.createAccount b) (.ok reply') :: later)) u) :
    a.number ≠ b.number ∧ a.id ≠ b.id := by
  rcases h.split with ⟨_, _, hfirst⟩
  cases hfirst with
  | @answered _ t _ _ _ _ _ hcall hrest =>
      rcases rows_of_created hcall with ⟨ha, hn⟩
      rcases hrest.split with ⟨t', hbetween, hsecond⟩
      have hlasting : t.Lasting t' := hbetween.changed.eq_afterAll ▸ t.lasting_afterAll _
      cases hsecond with
      | answered hcall' _ =>
          rcases (Attempt.map_eq_ok_iff _ _ _).mp hcall' with ⟨_, hcreated, _⟩
          constructor
          · intro heq
            have htaken := createAccount_of_number_taken (heq ▸ hlasting.entry _ _ hn)
            cases hcreated.symm.trans htaken
          · intro heq
            rcases hlasting.account _ _ ha with ⟨a', ha', _⟩
            rcases createAccount_of_id_taken (heq ▸ ha') with ⟨_, htaken⟩
            cases hcreated.symm.trans htaken

end Store

open Store

namespace Chronicle

variable {ι : Type} [DecidableEq ι] {settings : Settings} {requests : ι → Request}
  {x : Chronicle ι}

omit [DecidableEq ι] in
/-- Of two entries in the journal one comes first. -/
theorem entries_ordered {e e' : ι × Deed} (he : e ∈ x.journal) (he' : e' ∈ x.journal)
    (hne : e ≠ e') : ∃ earlier between later,
      x.journal = earlier ++ e :: (between ++ e' :: later) ∨
      x.journal = earlier ++ e' :: (between ++ e :: later) := by
  rcases List.append_of_mem he with ⟨before, later, hsplit⟩
  rcases List.append_of_mem he' with ⟨before', later', hsplit'⟩
  rcases turns_ordered (hsplit.symm.trans hsplit') hne with ⟨between, rfl⟩ | ⟨between, rfl⟩
  · exact ⟨before, between, later', Or.inl (by rw [hsplit', List.append_assoc, List.cons_append])⟩
  · exact ⟨before', between, later, Or.inr (by rw [hsplit, List.append_assoc, List.cons_append])⟩

/-- An account that was opened was added by the request that opened it. -/
theorem created_of_answered (h : x.Conducted settings requests) {i : ι} {request : OpenRequest}
    {a : Account} (hi : requests i = .openAccount request)
    (hr : x.answered i = some (.ok (.account a))) :
    ∃ time reply, (i, .asked time (.createAccount a) (.ok reply)) ∈ x.journal := by
  have hend := h.mayEnd hr
  rw [hi] at hend
  rcases (hend.changed _ rfl rfl).1 with ⟨time, c, reply, honly, hfulfilled, hanswered⟩
  cases hfulfilled with
  | opened _ _ =>
      cases hanswered
      exact ⟨time, reply, (mem_deedsOf_iff x i _).mp honly.mem⟩

/-- No number is given twice. After every run of calls of the store each number leads to the one
    account that has it, from then on; and however requests are interleaved, two of them that open
    accounts never both succeed with the same number, or with the same identifier. -/
theorem numbers_distinct :
    (∀ calls, (Store.empty.afterAll calls).Numbered) ∧
    ∀ (settings : Settings) (w : World) (requests : ι → Request) (moments : ι → Nat → Moment)
      (schedule : List ι) (x : Chronicle ι), x = (start settings w requests).run moments schedule →
      ∀ i j request request' a b, requests i = .openAccount request →
        requests j = .openAccount request' → i ≠ j → x.answered i = some (.ok (.account a)) →
        x.answered j = some (.ok (.account b)) → a.number ≠ b.number ∧ a.id ≠ b.id := by
  refine ⟨numbered_afterAll, ?_⟩
  rintro settings w requests moments schedule x rfl i j request request' a b hi hj hne hri hrj
  have hconducted :
      ((start settings w requests).run moments schedule).Conducted settings requests :=
    conducted_run w moments schedule
  have hlived := lived_run moments settings w requests schedule
  rcases created_of_answered hconducted hi hri with ⟨time, reply, hentry⟩
  rcases created_of_answered hconducted hj hrj with ⟨time', reply', hentry'⟩
  rcases entries_ordered hentry hentry' fun heq => hne (congrArg Prod.fst heq) with
    ⟨earlier, between, later, hsplit | hsplit⟩
  · rw [deeds, hsplit, List.map_append, List.map_cons, List.map_append, List.map_cons] at hlived
    exact hlived.ne_of_created
  · rw [deeds, hsplit, List.map_append, List.map_cons, List.map_append, List.map_cons] at hlived
    rcases hlived.ne_of_created with ⟨hnumber, hid⟩
    exact ⟨hnumber.symm, hid.symm⟩

/-- Numbers of which the first is drawn twice. -/
def oneThenAnother (k : Nat) : Except LedgerError AccountNumber :=
  .ok (if k = 0 then Account.untouched.number else Account.neighbour.number)

/-- Two accounts are opened together, both with the first number. Each draws again after four
    steps. -/
def openedTogether (schedule : List Bool) : Chronicle Bool :=
  (start .default (.start 8 oneThenAnother .epoch) fun _ => .openAccount ⟨default, .checking, none,
    none⟩).run (fun first step => ⟨.epoch, if first then 0 else 1, step / 4, none⟩) schedule

/-- Both have drawn the first number when one of them is answered. -/
def bothDrawn : List Bool :=
  [true, false, true, false, true, false, true, false, true, false, false, false, false, false]

/-- The other one is refused and succeeds with the next number. -/
theorem openedTogether_distinct : ∃ a b,
    (openedTogether bothDrawn).answered true = some (.ok (.account a)) ∧
    (openedTogether bothDrawn).answered false = some (.ok (.account b)) ∧
    a.number.text = "01-2345-6789" ∧ a.number ≠ b.number := by
  have hfirst : (openedTogether bothDrawn).answered true = some (.ok (.account (.start
      ⟨.timeOrdered 0 0⟩ default .checking "NGN" Account.untouched.number .zero .epoch))) := by
    rfl
  have hsecond : (openedTogether bothDrawn).answered false = some (.ok (.account (.start
      ⟨.timeOrdered 0 1⟩ default .checking "NGN" Account.neighbour.number .zero .epoch))) := by
    rfl
  exact ⟨_, _, hfirst, hsecond, rfl, (numbers_distinct.2 .default _ _ _ bothDrawn
    (openedTogether bothDrawn) rfl true false _ _ _ _ rfl rfl nofun hfirst hsecond).1⟩

end Chronicle

end BankLedger
