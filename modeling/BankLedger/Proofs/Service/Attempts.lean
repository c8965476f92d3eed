import BankLedger.Proofs.Service.Minted
import BankLedger.Proofs.Store.Run

/-!
# Trying One Number After the Other

A new account gets a number that is drawn, and the store refuses it when another account has the
number already. Then the next number is drawn, until one is free, or no number comes, or all
attempts are used up. The index of the numbers is the store's, and others open accounts too, so a
number that was free when it was drawn may be taken when its account reaches the store.

What counts is the store that the call of an attempt meets. `moment` is that store for each attempt,
and given these stores the outcome is read off the script of the numbers: all is decided by the
first position that holds an error, or a number that is free at its own moment. One draw belongs to
each position up to there, none is made after it, and nothing is written on the way.

## Main definitions

* `Opening`: An opening whose request has been checked, and what happens around it.
* `Opening.standing`: Where an opening is after some attempts.
* `Opening.moment`: The store that the call of an attempt meets.
* `AllTaken`: The numbers up to a position are all taken.
* `Attempted`: What comes of an opening, read off the script.
* `Opening.Others`: Others have led from one store to another.

## Theorems

* `Opening.run_of_error`, `Opening.run_of_free`, `Opening.run_of_taken`: One attempt.
* `Attempted.of_taken`: What comes of the later attempts comes of all of them.
* `Opening.attempted`: What comes of an opening is read off the script.
* `Opening.others_rest`: On the way only others write.
* `openAccount_followsScript`: Both, with others in between or alone.
-/

namespace BankLedger

open Program

namespace World

variable {w : World}

/-- The world after some calls of others. -/
def asked (w : World) (calls : List Call) : World := calls.foldl (fun w c => (w.ask c).2) w

-- By induction on the calls.
/-- Calls touch nothing but the store and the clock. -/
theorem exists_asked_eq (w : World) (calls : List Call) :
    ∃ s now, w.asked calls = { w with store := s, clock := now } := by
  induction calls generalizing w with
  | nil => exact ⟨w.store, w.clock, rfl⟩
  | cons c rest ih =>
      rcases ih (w.ask c).2 with ⟨s, now, hrest⟩
      rw [ask_snd] at hrest
      refine ⟨s, now, ?_⟩
      rw [← hrest, ← ask_snd]
      rfl

theorem numbers_asked (calls : List Call) : (w.asked calls).numbers = w.numbers := by
  rcases exists_asked_eq w calls with ⟨s, now, h⟩
  rw [h]

theorem drawn_asked (calls : List Call) : (w.asked calls).drawn = w.drawn := by
  rcases exists_asked_eq w calls with ⟨s, now, h⟩
  rw [h]

/-- The store is then the one after these calls, each at its time. -/
theorem store_asked (calls : List Call) : ∃ timed : List (Instant × Call),
    (w.asked calls).store = w.store.afterAll timed ∧ timed.map Prod.snd = calls := by
  unfold asked
  induction calls generalizing w with
  | nil => exact ⟨[], rfl, rfl⟩
  | cons c rest ih =>
      rcases ih (w := (w.ask c).2) with ⟨timed, hstore, hcalls⟩
      refine ⟨(w.clock, c) :: timed, ?_, congrArg (c :: ·) hcalls⟩
      rw [Store.afterAll_cons, ← store_ask]
      exact hstore

end World

namespace Program

/-- A call that is not refused meets what others have done. -/
theorem run_call {α : Type} {around : Surrounding} {made : List Call} {c : Call}
    {next : Except LedgerError c.Reply → Program α} {w : World}
    (h : (around made c).refusal = none) :
    (Program.call c next).run around made w
      = (next ((w.asked (around made c).before).ask c).1).run around (c :: made)
        ((w.asked (around made c).before).ask c).2 := by
  conv_lhs => unfold run
  simp only [h]
  rfl

end Program

namespace Ledger

/-- An opening whose request has been checked, and what happens around it. -/
structure Opening where
  request : OpenRequest
  currency : String
  rate : Decimal
  around : Surrounding

namespace Opening

variable (o : Opening)

/-- The account that is tried with a number. -/
def tried (w : World) (number : AccountNumber) : Account :=
  Ledger.tried o.request o.currency o.rate number w

/-- The call of an attempt. -/
def offer (w : World) (number : AccountNumber) : Call := .createAccount (o.tried w number)

/-- The world that the call of an attempt meets: others come first. -/
def met (made : List Call) (w : World) (number : AccountNumber) : World :=
  (trying w).asked (o.around made (o.offer w number)).before

/-- The calls made so far and the world, after an attempt whose number was taken. -/
def next (x : List Call × World) : List Call × World :=
  match x.2.numbers x.2.drawn with
  | .ok number => (o.offer x.2 number :: x.1, (o.met x.1 x.2 number).tick.2)
  | .error _ => x

/-- The calls made so far and the world, after some attempts whose numbers were all taken. -/
def standing (x : List Call × World) (k : Nat) : List Call × World := o.next^[k] x

/-- The store before an attempt. -/
def rest (x : List Call × World) (k : Nat) : Store := (o.standing x k).2.store

/-- The store that the call of an attempt meets. -/
def moment (x : List Call × World) (k : Nat) : Store :=
  match (o.standing x k).2.numbers (o.standing x k).2.drawn with
  | .ok number => (o.met (o.standing x k).1 (o.standing x k).2 number).store
  | .error _ => o.rest x k

/-- The identifier of the account that is tried. -/
def newId (x : List Call × World) (k : Nat) : AccountId := ⟨(o.standing x k).2.draw.2.fresh.1⟩

/-- The program of the opening. -/
def program (attempts left : Nat) : Program Account :=
  openWith o.request o.currency o.rate attempts left

/-- What follows the answer of the store. -/
def answered (attempts left : Nat) (a : Account) : Except LedgerError Unit → Program Account
  | .ok _ => .announce (.accountCreated a) (.done (.ok a))
  | .error (.alreadyExists _) => o.program attempts left
  | .error e => .fail e

variable {o} {attempts left : Nat} {made : List Call} {w : World} {number : AccountNumber}

/-- Without a number the request ends at once. -/
theorem run_of_error {e : LedgerError} (hnumber : w.numbers w.drawn = .error e) :
    (o.program attempts (left + 1)).run o.around made w = (.error e, w.draw.2) := by
  unfold program openWith
  change ((Program.done (w.numbers w.drawn)).bind _).run o.around made w.draw.2 = _
  rw [hnumber]
  rfl

/-- With a number the store is asked, after the others. -/
theorem run_of_ok (hanswers : ∀ made c, (o.around made c).refusal = none)
    (hnumber : w.numbers w.drawn = .ok number) {r : Except LedgerError Unit} {v : World}
    (hask : (o.met made w number).ask (o.offer w number) = (r, v)) :
    (o.program attempts (left + 1)).run o.around made w
      = (o.answered attempts left (o.tried w number) r).run o.around (o.offer w number :: made)
        v := by
  unfold program
  conv_lhs => unfold openWith
  change ((Program.done (w.numbers w.drawn)).bind _).run o.around made w.draw.2 = _
  rw [hnumber]
  have hcall : (Program.call (o.offer w number) (o.answered attempts left (o.tried w number))).run
      o.around made (trying w) = (o.answered attempts left (o.tried w number) r).run o.around
        (o.offer w number :: made) v := by
    refine (run_call (hanswers made (o.offer w number))).trans ?_
    unfold met at hask
    rw [hask]
  refine Eq.trans ?_ hcall
  refine congrArg (fun next => (Program.call (o.offer w number) next).run o.around made (trying w))
    (funext fun r => ?_)
  rcases r with e | _
  · cases e <;> rfl
  · rfl

/-- An account whose number and identifier are free is taken, and the request ends. -/
theorem run_of_free (hanswers : ∀ made c, (o.around made c).refusal = none)
    (hnumber : w.numbers w.drawn = .ok number) {s : Store}
    (hs : (o.met made w number).store.createAccount (o.tried w number) = .ok s) :
    (o.program attempts (left + 1)).run o.around made w = (.ok (o.tried w number),
      World.announce { (o.met made w number).tick.2 with store := s }
        (.accountCreated (o.tried w number))) :=
  by
  have hperform : (o.met made w number).store.perform (o.met made w number).clock
      (o.offer w number) = .ok ((), s) := (Attempt.map_eq_ok_iff _ _ _).mpr ⟨s, hs, rfl⟩
  rw [run_of_ok hanswers hnumber (World.ask_of_perform hperform)]
  rfl

/-- An account whose number is taken is refused, and the next attempt is made. -/
theorem run_of_taken (hanswers : ∀ made c, (o.around made c).refusal = none)
    (hnumber : w.numbers w.drawn = .ok number) {row : AccountNumber × AccountId}
    (hrow : (o.met made w number).store.index.get? number = some row) :
    (o.program attempts (left + 1)).run o.around made w
      = (o.program attempts left).run o.around (o.offer w number :: made)
        (o.met made w number).tick.2 := by
  have hperform : (o.met made w number).store.perform (o.met made w number).clock
      (o.offer w number) = .error (.alreadyExists (.number number)) :=
    congrArg (Except.map _) (Store.createAccount_of_taken hrow)
  rw [run_of_ok hanswers hnumber (World.ask_of_refused hperform)]
  rfl

end Opening

/-- The numbers of the first positions are all taken, each in the store of its own moment. -/
def AllTaken (script : NumberSource) (moment : Nat → Store) (k : Nat) : Prop :=
  ∀ j < k, ∃ number row, script j = .ok number ∧ (moment j).index.get? number = some row

/-- An account is opened with a number: it is active and empty, and it has come into the store with
    its number and nothing else. -/
def OpenedWith (s : Store) (number : AccountNumber)
    (outcome : Except LedgerError Account × World) : Prop :=
  ∃ a index accounts, outcome.1 = .ok a ∧ a.status = .active ∧ a.number = number ∧
    a.balance = .zero ∧ a.available = .zero ∧ s.index.insert? (number, a.id) = some index ∧
    s.accounts.insert? a = some accounts ∧
    outcome.2.store = { s with accounts := accounts, index := index }

/-- What comes of an opening that may make `left` more attempts of all its `attempts`, given the
    numbers that it may draw, the store that the call of each attempt meets, and the store before
    each attempt. -/
structure Attempted (script : NumberSource) (moment rest : Nat → Store) (attempts left drawn : Nat)
    (outcome : Except LedgerError Account × World) : Prop where
  /-- The first number that is free is given to the new account. -/
  opened : ∀ k < left, AllTaken script moment k → ∀ number, script k = .ok number →
    (moment k).index.get? number = none →
      OpenedWith (moment k) number outcome ∧ outcome.2.drawn = drawn + (k + 1)
  /-- When no number comes, the request fails for that reason. -/
  failed : ∀ k < left, AllTaken script moment k → ∀ e, script k = .error e →
    outcome.1 = .error e ∧ outcome.2.drawn = drawn + (k + 1) ∧ outcome.2.store = rest k
  /-- When all attempts are used up, it fails too. -/
  exhausted : AllTaken script moment left →
    outcome.1 = .error (.alreadyExists (.everyAttempt attempts)) ∧
      outcome.2.drawn = drawn + left ∧ outcome.2.store = rest left

section Positions

variable {script : NumberSource} {moment rest : Nat → Store} {attempts left drawn k : Nat}
  {outcome : Except LedgerError Account × World} {number : AccountNumber}

theorem AllTaken.cons {row : AccountNumber × AccountId}
    (h : AllTaken (fun k => script (k + 1)) (fun k => moment (k + 1)) k)
    (hnumber : script 0 = .ok number) (hrow : (moment 0).index.get? number = some row) :
    AllTaken script moment (k + 1) := by
  intro j hj
  cases j with
  | zero => exact ⟨number, row, hnumber, hrow⟩
  | succ j => exact h j (Nat.lt_of_succ_lt_succ hj)

theorem AllTaken.succ (h : AllTaken script moment (k + 1)) :
    AllTaken (fun k => script (k + 1)) (fun k => moment (k + 1)) k :=
  fun j hj => h (j + 1) (Nat.succ_lt_succ hj)

/-- The first number is taken, so what comes of the later attempts comes of all of them. -/
theorem Attempted.of_taken (h : Attempted (fun k => script (k + 1)) (fun k => moment (k + 1))
      (fun k => rest (k + 1)) attempts left (drawn + 1) outcome)
    {row : AccountNumber × AccountId} (hnumber : script 0 = .ok number)
    (hrow : (moment 0).index.get? number = some row) :
    Attempted script moment rest attempts (left + 1) drawn outcome := by
  have hcount (k : Nat) : drawn + 1 + k = drawn + (k + 1) := Nat.succ_add_eq_add_succ drawn k
  constructor
  · intro k hk htaken n hn hfree
    cases k with
    | zero =>
        cases hnumber.symm.trans hn
        cases hrow.symm.trans hfree
    | succ k =>
        rw [← hcount]
        exact h.opened k (Nat.lt_of_succ_lt_succ hk) htaken.succ n hn hfree
  · intro k hk htaken e he
    cases k with
    | zero => cases hnumber.symm.trans he
    | succ k =>
        rw [← hcount]
        exact h.failed k (Nat.lt_of_succ_lt_succ hk) htaken.succ e he
  · intro htaken
    rw [← hcount]
    exact h.exhausted htaken.succ

/-- The request ends with the first attempt, and what comes of it is known. -/
theorem Attempted.of_first (h : ¬ AllTaken script moment 1)
    (hopened : ∀ number, script 0 = .ok number → (moment 0).index.get? number = none →
      OpenedWith (moment 0) number outcome ∧ outcome.2.drawn = drawn + 1)
    (hfailed : ∀ e, script 0 = .error e →
      outcome.1 = .error e ∧ outcome.2.drawn = drawn + 1 ∧ outcome.2.store = rest 0) :
    Attempted script moment rest attempts (left + 1) drawn outcome where
  opened k hk htaken := by
    cases k with
    | zero => exact hopened
    | succ k => exact absurd (fun j hj => htaken j (by omega)) h
  failed k hk htaken := by
    cases k with
    | zero => exact hfailed
    | succ k => exact absurd (fun j hj => htaken j (by omega)) h
  exhausted htaken := absurd (fun j hj => htaken j (by omega)) h

end Positions

namespace Opening

variable {o : Opening} {attempts left : Nat} {made : List Call} {w : World} {number : AccountNumber}

theorem moment_zero (hnumber : w.numbers w.drawn = .ok number) :
    o.moment (made, w) 0 = (o.met made w number).store := by
  unfold moment standing
  simp only [Function.iterate_zero, id, hnumber]

theorem standing_succ (hnumber : w.numbers w.drawn = .ok number) (k : Nat) :
    o.standing (made, w) (k + 1)
      = o.standing (o.offer w number :: made, (o.met made w number).tick.2) k := by
  unfold standing
  rw [Function.iterate_succ_apply]
  congr 1
  unfold next
  simp only [hnumber]

/-- After an attempt whose number was taken, all positions are one further on, whatever it is that
    is read off where the opening is. -/
theorem shift (made : List Call) {α : Type} {f : List Call × World → Nat → α}
    (hf : ∀ x k, f x k = f (o.standing x k) 0) (hnumber : w.numbers w.drawn = .ok number) :
    (fun k => f (made, w) (k + 1))
      = f (o.offer w number :: made, (o.met made w number).tick.2) := by
  funext k
  rw [hf, hf _ k, standing_succ hnumber]

/-- The numbers that may be drawn from now on. -/
def script (w : World) : NumberSource := fun k => w.numbers (w.drawn + k)

theorem script_succ (made : List Call) (w : World) (number : AccountNumber) :
    script (o.met made w number).tick.2 = fun k => script w (k + 1) := by
  have hnumbers : (o.met made w number).tick.2.numbers = w.numbers := World.numbers_asked _
  have hdrawn : (o.met made w number).tick.2.drawn = w.drawn + 1 := World.drawn_asked _
  unfold script
  simp only [hnumbers, hdrawn, Nat.succ_add_eq_add_succ]

-- By induction on the attempts that are left. After a number that is taken the next attempt starts
-- one position further on, in the world that the first one has left.
/-- What comes of an opening is read off the script. -/
theorem attempted (hanswers : ∀ made c, (o.around made c).refusal = none)
    (hfresh : ∀ k < left, AllTaken (script w) (o.moment (made, w)) k →
      (o.moment (made, w) k).accounts.get? (o.newId (made, w) k) = none) :
    Attempted (script w) (o.moment (made, w)) (o.rest (made, w)) attempts left w.drawn
      ((o.program attempts left).run o.around made w) := by
  induction left generalizing made w with
  | zero =>
      exact ⟨fun k hk => absurd hk (Nat.not_lt_zero k), fun k hk => absurd hk (Nat.not_lt_zero k),
        fun _ => ⟨rfl, rfl, rfl⟩⟩
  | succ left ih =>
      cases hnumber : w.numbers w.drawn with
      | error e =>
          rw [run_of_error hnumber]
          refine .of_first (fun h => ?_) (fun n hn => ?_) fun e' he => ?_
          · rcases h 0 Nat.zero_lt_one with ⟨n, _, hn, _⟩
            cases hnumber.symm.trans hn
          · cases hnumber.symm.trans hn
          · cases hnumber.symm.trans he
            exact ⟨rfl, rfl, rfl⟩
      | ok number =>
          have hmoment : o.moment (made, w) 0 = (o.met made w number).store := moment_zero hnumber
          cases hindex : (o.met made w number).store.index.get? number with
          | none =>
              have hid := hmoment ▸ hfresh 0 (Nat.succ_pos left) fun j hj => by omega
              rcases Table.exists_insert? (r := (number, (o.tried w number).id)) hindex with
                ⟨index, hindex'⟩
              rcases Table.exists_insert? (r := o.tried w number) hid with ⟨accounts, haccounts⟩
              rw [run_of_free hanswers hnumber ((Store.createAccount_eq_ok_iff _ _ _).mpr
                ⟨index, accounts, hindex', haccounts, rfl⟩)]
              refine .of_first (fun h => ?_) (fun n hn _ => ?_) fun e he => ?_
              · rcases h 0 Nat.zero_lt_one with ⟨n, row, hn, hrow⟩
                cases hnumber.symm.trans hn
                rw [hmoment, hindex] at hrow
                cases hrow
              · cases hnumber.symm.trans hn
                refine ⟨?_, World.drawn_asked _⟩
                rw [hmoment]
                exact ⟨_, index, accounts, rfl, rfl, rfl, rfl, rfl, hindex', haccounts, rfl⟩
              · cases hnumber.symm.trans he
          | some row =>
              have hrow := hmoment.symm ▸ hindex
              rw [run_of_taken hanswers hnumber hindex]
              refine .of_taken ?_ hnumber hrow
              have hdrawn : (o.met made w number).tick.2.drawn = w.drawn + 1 := World.drawn_asked _
              have hmoments := shift made (f := o.moment) (fun _ _ => rfl) hnumber
              have hrests := shift made (f := o.rest) (fun _ _ => rfl) hnumber
              have hids := shift made (f := o.newId) (fun _ _ => rfl) hnumber
              rw [hmoments, hrests, ← script_succ (o := o) made w number, ← hdrawn]
              refine ih fun k hk htaken => ?_
              rw [script_succ, ← hmoments] at htaken
              rw [← hmoments, ← hids]
              exact hfresh (k + 1) (Nat.succ_lt_succ hk) (htaken.cons hnumber hrow)

/-- Some calls of others lead from one store to another. -/
def Others (around : Surrounding) (s t : Store) : Prop :=
  ∃ calls : List (Instant × Call), t = s.afterAll calls ∧
    ∀ c ∈ calls, ∃ made own, c.2 ∈ (around made own).before

/-- Before a call of an attempt only others come to the store. -/
theorem others_met (made : List Call) (w : World) (number : AccountNumber) :
    Others o.around w.store (o.met made w number).store := by
  rcases World.store_asked (w := trying w) (o.around made (o.offer w number)).before with
    ⟨timed, hstore, hcalls⟩
  exact ⟨timed, hstore, fun c hc => ⟨made, _, hcalls ▸ List.mem_map_of_mem hc⟩⟩

theorem others_moment (x : List Call × World) (k : Nat) :
    Others o.around (o.rest x k) (o.moment x k) := by
  unfold moment
  split
  · exact others_met _ _ _
  · exact ⟨[], rfl, fun c hc => absurd hc List.not_mem_nil⟩

-- By induction on the attempts. What an attempt leaves is what its own call has met, because the
-- call was refused.
/-- What has become of the store before an attempt is the work of others. -/
theorem others_rest (x : List Call × World) (k : Nat) : Others o.around x.2.store (o.rest x k) := by
  induction k with
  | zero => exact ⟨[], rfl, fun c hc => absurd hc List.not_mem_nil⟩
  | succ k ih =>
      have hlast : Others o.around (o.rest x k) (o.rest x (k + 1)) := by
        unfold rest standing
        rw [Function.iterate_succ_apply']
        unfold next
        split
        · exact others_met _ _ _
        · exact ⟨[], rfl, fun c hc => absurd hc List.not_mem_nil⟩
      rcases ih with ⟨calls, hcalls, hothers⟩
      rcases hlast with ⟨later, hlater, hothers'⟩
      refine ⟨calls ++ later, ?_, fun c hc => (List.mem_append.mp hc).elim (hothers c) (hothers' c)⟩
      rw [hlater, hcalls]
      exact (List.foldl_append ..).symm

/-- When nobody else comes to the store it stays as it is. -/
theorem Others.eq_of_alone {s t : Store} (h : Others alone s t) : t = s := by
  rcases h with ⟨calls, rfl, hothers⟩
  cases calls with
  | nil => rfl
  | cons c rest =>
      rcases hothers c List.mem_cons_self with ⟨_, _, hc⟩
      cases hc

/-- An opening comes to what the script says, and what is written besides the new account is the
    work of others. -/
structure FollowsScript (o : Opening) (made : List Call) (w : World) (attempts : Nat)
    (outcome : Except LedgerError Account × World) : Prop where
  attempted : Attempted (script w) (o.moment (made, w)) (o.rest (made, w)) attempts attempts w.drawn
    outcome
  others : ∀ k, Others o.around w.store (o.rest (made, w) k) ∧
    Others o.around (o.rest (made, w) k) (o.moment (made, w) k)
  /-- Alone, all numbers are looked up in the store that there was at the beginning. -/
  alone : o.around = Program.alone →
    ∀ k, o.rest (made, w) k = w.store ∧ o.moment (made, w) k = w.store

end Opening

/-- To open an account is to try one number after the other, as the script of the numbers says. -/
theorem openAccount_followsScript (settings : Settings) (o : Opening) (made : List Call) (w : World)
    (hcurrency : currencyFor settings o.request.currency = .ok o.currency)
    (hrate : rateFor settings o.request.kind o.request.rate = .ok o.rate)
    (hanswers : ∀ made c, (o.around made c).refusal = none)
    (hfresh : ∀ k < settings.numberAttempts,
      AllTaken (Opening.script w) (o.moment (made, w)) k →
        (o.moment (made, w) k).accounts.get? (o.newId (made, w) k) = none) :
    o.FollowsScript made w settings.numberAttempts
      ((openAccount settings o.request).run o.around made w) := by
  have hprogram : openAccount settings o.request
      = o.program settings.numberAttempts settings.numberAttempts := by
    unfold openAccount
    rw [hcurrency, hrate]
    rfl
  rw [hprogram]
  refine ⟨Opening.attempted hanswers hfresh, fun k => ⟨Opening.others_rest _ k,
    Opening.others_moment _ k⟩, fun halone k => ?_⟩
  have hrest := Opening.others_rest (o := o) (made, w) k
  have hmoment := Opening.others_moment (o := o) (made, w) k
  rw [halone] at hrest hmoment
  exact ⟨hrest.eq_of_alone, hmoment.eq_of_alone.trans hrest.eq_of_alone⟩

/-- The first account number. -/
def firstNumber : AccountNumber := ⟨"00-0000-0001", by decide +kernel⟩

/-- The number after it. -/
def secondNumber : AccountNumber := ⟨"00-0000-0002", by decide +kernel⟩

/-- A source that gives the first number twice. -/
def stammering : World :=
  .start 8 (fun k => .ok (if k < 2 then firstNumber else secondNumber)) .epoch

/-- Somebody else is given the first number just before the store is asked for the first time. -/
def overtaken : Opening where
  request := ⟨default, .checking, none, none⟩
  currency := "NGN"
  rate := .zero
  around made _ := ⟨if made.isEmpty then
    [.createAccount (.start ⟨.timeOrdered 0 7⟩ default .savings "NGN" firstNumber .zero .epoch)]
    else [], none⟩

/-- The number is free when it is drawn and taken when it counts, and it is taken when it comes once
    more. -/
theorem overtaken_followsScript :
    (currencyFor .default overtaken.request.currency = .ok overtaken.currency ∧
      rateFor .default overtaken.request.kind overtaken.request.rate = .ok overtaken.rate) ∧
    OpenedWith (overtaken.moment ([], stammering) 2) secondNumber
      ((openAccount .default overtaken.request).run overtaken.around [] stammering) ∧
    ((openAccount .default overtaken.request).run overtaken.around [] stammering).2.drawn = 3 := by
  have htaken : ∀ j < 2, (overtaken.moment ([], stammering) j).index.get? firstNumber
      = some (firstNumber, ⟨.timeOrdered 0 7⟩) := by decide +kernel
  have hfresh : ∀ k < 5, (overtaken.moment ([], stammering) k).accounts.get?
      (overtaken.newId ([], stammering) k) = none := by decide +kernel
  have hfree : (overtaken.moment ([], stammering) 2).index.get? secondNumber = none := by
    decide +kernel
  have hscript := openAccount_followsScript .default overtaken [] stammering rfl rfl
    (fun _ _ => rfl) fun k hk _ => hfresh k hk
  refine ⟨⟨rfl, rfl⟩, hscript.attempted.opened 2 (by decide) (fun j hj => ?_) _ rfl hfree⟩
  refine ⟨firstNumber, _, ?_, htaken j hj⟩
  exact congrArg Except.ok (if_pos (by simpa [stammering, World.start] using hj))

end Ledger

end BankLedger
