import BankLedger.Proofs.Service.Outcome

/-!
# Identifiers of Rows

Every row is stored under an identifier that was made for it. Identifiers carry the number under
which they were made, so as long as these numbers have not come round again a new identifier is
none of those in the store. Then nothing stands in the way of a new hold, and a new account only
needs a number that no account has.

## Main definitions

* `Uuid.serials`: How many identifiers are made before their numbers come round again.
* `World.HasMade`: The identifier was made in this world.
* `World.Minted`: All rows are stored under identifiers that were made.
* `World.DrawsUnused`: Among the next account numbers there is one that no account has.

## Theorems

* `Uuid.serial_eq_of_timeOrdered_eq`: Identifiers that are made apart differ.
* `DrawsUnused.next`: When the number that is drawn is taken, the unused one is still to come.
* `Program.made_le_runAlone`: Identifiers are not taken back.
* `Ledger.hasMade_openWith`, `Ledger.hasMade_createHold`: New rows have identifiers that were made.
* `Ledger.exists_openWith`: An account is opened when an unused number is drawn.
-/

namespace BankLedger

namespace Uuid

/-- How many identifiers are made before their serial numbers come round again. -/
def serials : Nat := 0x400_0000_0000_0000_0000

/-- Identifiers with different serial numbers differ, whenever they are made. -/
theorem serial_eq_of_timeOrdered_eq {milliseconds milliseconds' m n : Nat} (hm : m < serials)
    (hn : n < serials) (h : timeOrdered milliseconds m = timeOrdered milliseconds' n) : m = n := by
  have hvalue := congrArg Uuid.value h
  unfold timeOrdered ofNat limit at hvalue
  unfold serials at hm hn
  simp only [Nat.shiftLeft_eq, Nat.shiftRight_eq_div_pow] at hvalue
  omega

end Uuid

namespace World

/-- The identifier was made in this world. -/
def HasMade (w : World) (u : Uuid) : Prop :=
  ∃ milliseconds serial, serial < w.made ∧ u = .timeOrdered milliseconds serial

/-- All rows are stored under identifiers that were made. -/
structure Minted (w : World) : Prop where
  accounts : ∀ id a, w.store.accounts.get? id = some a → w.HasMade id.uuid
  holds : ∀ id h, w.store.holds.get? id = some h → w.HasMade id.uuid

/-- Among the next account numbers there is one that no account has, and each draw up to it gives a
    number. -/
def DrawsUnused (w : World) (attempts : Nat) : Prop :=
  ∃ k < attempts, (∀ j < k, ∃ n, w.numbers (w.drawn + j) = .ok n) ∧
    ∃ n, w.numbers (w.drawn + k) = .ok n ∧ w.store.index.get? n = none

variable {w v : World}

theorem HasMade.mono {u : Uuid} (h : w.HasMade u) (hmade : w.made ≤ v.made) : v.HasMade u := by
  rcases h with ⟨milliseconds, serial, hserial, hu⟩
  exact ⟨milliseconds, serial, Nat.lt_of_lt_of_le hserial hmade, hu⟩

/-- The next identifier has not been made before. -/
theorem not_hasMade_fresh (hroom : w.made < Uuid.serials) : ¬ w.HasMade w.fresh.1 := by
  rintro ⟨milliseconds, serial, hserial, heq⟩
  exact absurd (Uuid.serial_eq_of_timeOrdered_eq hroom (Nat.lt_trans hserial hroom) heq)
    (Nat.ne_of_gt hserial)

theorem hasMade_fresh (hmade : w.made < v.made) : v.HasMade w.fresh.1 := ⟨_, _, hmade, rfl⟩

theorem Minted.account_free (h : w.Minted) (hroom : w.made < Uuid.serials) :
    w.store.accounts.get? ⟨w.fresh.1⟩ = none :=
  Option.eq_none_iff_forall_ne_some.mpr fun a ha => not_hasMade_fresh hroom (h.accounts _ a ha)

theorem Minted.hold_free (h : w.Minted) (hroom : w.made < Uuid.serials) :
    w.store.holds.get? ⟨w.fresh.1⟩ = none :=
  Option.eq_none_iff_forall_ne_some.mpr fun a ha => not_hasMade_fresh hroom (h.holds _ a ha)

theorem Minted.mono (h : w.Minted) (hstore : v.store = w.store) (hmade : w.made ≤ v.made) :
    v.Minted where
  accounts id a ha := (h.accounts id a (hstore ▸ ha)).mono hmade
  holds id g hg := (h.holds id g (hstore ▸ hg)).mono hmade

/-- The next draw gives a number. -/
theorem DrawsUnused.draws {left : Nat} (h : w.DrawsUnused (left + 1)) :
    ∃ number, w.numbers w.drawn = .ok number := by
  rcases h with ⟨k, hk, hdrawn, n, hn, hunused⟩
  cases k with
  | zero => exact ⟨n, hn⟩
  | succ k => exact hdrawn 0 (Nat.succ_pos k)

/-- When the number that is drawn is taken, the unused one is still to come. -/
theorem DrawsUnused.next {left : Nat} (h : w.DrawsUnused (left + 1)) {number : AccountNumber}
    (hnumber : w.numbers w.drawn = .ok number) {row : AccountNumber × AccountId}
    (hindex : w.store.index.get? number = some row) (hnumbers : v.numbers = w.numbers)
    (hdrawn : v.drawn = w.drawn + 1) (hstore : v.store = w.store) : v.DrawsUnused left := by
  rcases h with ⟨k, hk, hbefore, n, hn, hunused⟩
  unfold DrawsUnused
  rw [hnumbers, hdrawn, hstore]
  cases k with
  | zero =>
      rw [Nat.add_zero, hnumber] at hn
      cases hn
      rw [hindex] at hunused
      cases hunused
  | succ k =>
      refine ⟨k, Nat.lt_of_succ_lt_succ hk, fun j hj => ?_, n, ?_, hunused⟩
      · have hlater := hbefore (j + 1) (Nat.succ_lt_succ hj)
        rwa [Nat.add_comm j 1, ← Nat.add_assoc] at hlater
      · rwa [Nat.add_comm k 1, ← Nat.add_assoc] at hn

theorem minted_start (capacity : Nat) (numbers : NumberSource) (clock : Instant) :
    (start capacity numbers clock).Minted := ⟨fun _ _ h => (nomatch h), fun _ _ h => (nomatch h)⟩

end World

namespace Store

/-- An account is refused when its number is taken. -/
theorem createAccount_of_taken {s : Store} {a : Account} {row : AccountNumber × AccountId}
    (h : s.index.get? a.number = some row) :
    s.createAccount a = .error (.alreadyExists (.number a.number)) := by
  unfold createAccount
  rw [(Table.insert?_eq_none_iff s.index (a.number, a.id)).mpr ⟨row, h⟩]

end Store

namespace Program

variable {α : Type}

/-- Identifiers are not taken back. -/
theorem made_le_runAlone (p : Program α) (w : World) : w.made ≤ (p.runAlone w).2.made := by
  induction p generalizing w with
  | done r => exact Nat.le_refl _
  | call c next ih =>
      rw [runAlone_call, ← World.made_ask w c]
      exact ih _ _
  | draw next ih => exact ih _ w.draw.2
  | now next ih => exact ih _ w.tick.2
  | fresh next ih => exact (Nat.le_succ _).trans (ih _ w.fresh.2)
  | announce n next ih => exact (Nat.le_succ _).trans (ih (w.announce n))

end Program

namespace Ledger

open Program

section Opening

variable {request : OpenRequest} {currency : String} {rate : Decimal} {attempts left : Nat}
  {w : World} {number : AccountNumber}

/-- The account that is tried with a number. -/
def tried (request : OpenRequest) (currency : String) (rate : Decimal) (number : AccountNumber)
    (w : World) : Account :=
  .start ⟨w.draw.2.fresh.1⟩ request.customer request.kind currency number rate
    w.draw.2.fresh.2.clock

/-- The world in which the store is asked for it. -/
def trying (w : World) : World := w.draw.2.fresh.2.tick.2

theorem runAlone_draw_bind {α : Type} (hnumber : w.numbers w.drawn = .ok number)
    (f : AccountNumber → Program α) :
    (Program.number >>= f).runAlone w = (f number).runAlone w.draw.2 := by
  have hdraw : Program.number.runAlone w = (.ok number, w.draw.2) := by
    rw [← hnumber]
    rfl
  rw [runAlone_bind, hdraw]

/-- An account is opened when the store takes it. -/
theorem runAlone_openWith_of_free (hnumber : w.numbers w.drawn = .ok number) {s : Store}
    (hperform : (trying w).store.perform (trying w).clock
      (.createAccount (tried request currency rate number w)) = .ok ((), s)) :
    (openWith request currency rate attempts (left + 1)).runAlone w
      = (.ok (tried request currency rate number w),
        World.announce { (trying w).tick.2 with store := s }
          (.accountCreated (tried request currency rate number w))) := by
  unfold openWith
  rw [runAlone_draw_bind hnumber, runAlone_freshId_bind, runAlone_time_bind]
  refine (runAlone_call _ _ _).trans ?_
  have hask := World.ask_of_perform hperform
  unfold tried trying at hask
  rw [hask]
  rfl

/-- Another number is drawn when the account exists, and any other refusal ends the request. -/
theorem runAlone_openWith_of_refused (hnumber : w.numbers w.drawn = .ok number) {e : LedgerError}
    (hperform : (trying w).store.perform (trying w).clock
      (.createAccount (tried request currency rate number w)) = .error e) :
    (openWith request currency rate attempts (left + 1)).runAlone w = (match e with
      | .alreadyExists _ => openWith request currency rate attempts left
      | e => .fail e).runAlone (trying w).tick.2 := by
  conv_lhs => unfold openWith
  rw [runAlone_draw_bind hnumber, runAlone_freshId_bind, runAlone_time_bind]
  refine (runAlone_call _ _ _).trans ?_
  have hask := World.ask_of_refused hperform
  unfold tried trying at hask
  rw [hask]
  cases e <;> rfl

-- By induction on the attempts. Every attempt makes an identifier of its own, and the account that
-- is opened in the end has that of the last one.
/-- A new account has an identifier that was made for it. -/
theorem hasMade_openWith {v : World} {a : Account}
    (h : (openWith request currency rate attempts left).runAlone w = (.ok a, v)) :
    v.HasMade a.id.uuid := by
  induction left generalizing w with
  | zero => cases h
  | succ left ih =>
      rcases hnumber : w.numbers w.drawn with e | number
      · unfold openWith at h
        rcases (runAlone_bind_eq_ok_iff _ _ _ _ _).mp h with ⟨number, w1, hdraw, _⟩
        exact nomatch hnumber.symm.trans (congrArg Prod.fst hdraw)
      · rcases hperform : (trying w).store.perform (trying w).clock
            (.createAccount (tried request currency rate number w)) with e | ⟨reply, s⟩
        · rw [runAlone_openWith_of_refused hnumber hperform] at h
          cases e with
          | alreadyExists what => exact ih h
          | _ => cases h
        · rw [runAlone_openWith_of_free hnumber hperform] at h
          cases h
          exact World.hasMade_fresh (w := w.draw.2) (Nat.lt_add_of_pos_right Nat.two_pos)

/-- An attempt makes an identifier. -/
theorem made_lt_openWith (hnumber : w.numbers w.drawn = .ok number) :
    w.made < ((openWith request currency rate attempts (left + 1)).runAlone w).2.made := by
  unfold openWith
  rw [runAlone_draw_bind hnumber, runAlone_freshId_bind]
  exact made_le_runAlone _ w.draw.2.fresh.2

/-- The store takes an account whose number and identifier are free. -/
theorem perform_tried_of_free (hindex : w.store.index.get? number = none)
    (hid : w.store.accounts.get? ⟨w.draw.2.fresh.1⟩ = none) :
    ∃ s, (trying w).store.perform (trying w).clock
      (.createAccount (tried request currency rate number w)) = .ok ((), s) := by
  rcases Table.exists_insert? (t := w.store.index)
    (r := (number, (tried request currency rate number w).id)) hindex with ⟨index, hindex'⟩
  rcases Table.exists_insert? (t := w.store.accounts)
    (r := tried request currency rate number w) hid with ⟨accounts, haccounts⟩
  exact ⟨_, (Attempt.map_eq_ok_iff _ _ _).mpr ⟨_, (Store.createAccount_eq_ok_iff w.store _ _).mpr
    ⟨index, accounts, hindex', haccounts, rfl⟩, rfl⟩⟩

/-- The store refuses an account whose number is taken. -/
theorem perform_tried_of_taken {row : AccountNumber × AccountId}
    (hindex : w.store.index.get? number = some row) :
    (trying w).store.perform (trying w).clock
      (.createAccount (tried request currency rate number w))
        = .error (.alreadyExists (.number number)) := by
  change (w.store.createAccount _).map _ = _
  rw [Store.createAccount_of_taken hindex]
  rfl

-- By induction on the attempts. A taken number is refused with the store as it was, and the next
-- attempt begins one draw further on.
/-- An account is opened when among the numbers that may be drawn there is one that no account
    has. -/
theorem exists_openWith (hdraws : w.DrawsUnused left) (hminted : w.Minted)
    (hroom : ((openWith request currency rate attempts left).runAlone w).2.made ≤ Uuid.serials) :
    ∃ a v, (openWith request currency rate attempts left).runAlone w = (.ok a, v) := by
  induction left generalizing w with
  | zero =>
      rcases hdraws with ⟨k, hk, _⟩
      exact absurd hk (Nat.not_lt_zero k)
  | succ left ih =>
      rcases hdraws.draws with ⟨number, hnumber⟩
      cases hindex : w.store.index.get? number with
      | none =>
          have hmade := Nat.lt_of_lt_of_le (made_lt_openWith hnumber) hroom
          rcases perform_tried_of_free hindex (hminted.account_free hmade) with ⟨s, hperform⟩
          exact ⟨_, _, runAlone_openWith_of_free hnumber hperform⟩
      | some row =>
          rw [runAlone_openWith_of_refused hnumber (perform_tried_of_taken hindex)] at hroom ⊢
          exact ih (hdraws.next hnumber hindex rfl rfl rfl) (hminted.mono rfl (Nat.le_succ w.made))
            hroom

end Opening

/-- A new hold has an identifier that was made for it. -/
theorem hasMade_createHold {request : HoldRequest} {h : Hold} {w v : World}
    (hrun : (createHold request).runAlone w = (.ok h, v)) : v.HasMade h.id.uuid := by
  unfold createHold at hrun
  rcases (runAlone_bind_eq_ok_iff _ _ _ _ _).mp hrun with ⟨amount, w1, _, hrun⟩
  rcases (runAlone_bind_eq_ok_iff _ _ _ _ _).mp hrun with ⟨_, w2, _, hrun⟩
  rw [runAlone_time_bind] at hrun
  rcases (runAlone_bind_eq_ok_iff _ _ _ _ _).mp hrun with ⟨_, w3, _, hrun⟩
  rcases (runAlone_bind_eq_ok_iff _ _ _ _ _).mp hrun with ⟨a, w4, _, hrun⟩
  rcases (runAlone_bind_eq_ok_iff _ _ _ _ _).mp hrun with ⟨_, w5, _, hrun⟩
  rw [runAlone_freshId_bind] at hrun
  -- What comes after the identifier was made does not take it back.
  have hmade := made_le_runAlone _ _ |>.trans_eq (congrArg (World.made ∘ Prod.snd) hrun)
  rcases (runAlone_bind_eq_ok_iff _ _ _ _ _).mp hrun with ⟨_, w6, _, hrun⟩
  cases hrun
  exact World.hasMade_fresh hmade

end Ledger

namespace World

variable {w v : World}

/-- A call keeps all rows stored under identifiers that were made, if that of a new row was. -/
theorem Minted.of_effect (h : w.Minted) (hmade : w.made ≤ v.made) {now : Instant} {c : Call}
    (heffect : w.store.Effect now c v.store)
    (haccount : ∀ a, c = .createAccount a → v.HasMade a.id.uuid)
    (hhold : ∀ g, c = .createHold g → v.HasMade g.id.uuid) : v.Minted where
  accounts id b hb := by
    rcases heffect.account_cases hb with hnew | hold | ⟨a, ha, _⟩
    · exact Table.key_of_get? hb ▸ haccount b hnew
    · exact (h.accounts id b hold).mono hmade
    · exact (h.accounts id a ha).mono hmade
  holds id g hg := by
    generalize v.store = s at heffect hg
    cases heffect with
    | looked _ | opened _ _ | amended _ _ | acted _ _ | moved _ _ =>
        exact (h.holds id g hg).mono hmade
    | held _ hholds _ =>
        rw [Table.get?_insert? hholds] at hg
        split at hg
        · next hid => exact hid ▸ hhold _ rfl
        · exact (h.holds id g hg).mono hmade
    | released hh _ _ _ =>
        rcases hold : w.store.holds.get? id with _ | old
        · rw [(Table.get?_replace_eq_none_iff _ _ _).mpr hold] at hg
          cases hg
        · exact (h.holds id old hold).mono hmade

end World

namespace Request

open Program

variable {settings : Settings} {w v : World}

/-- An account is opened when among the numbers that may be drawn there is one that no account
    has, and nothing is wrong with currency and rate. -/
theorem succeeds_openAccount {request : OpenRequest} {currency : String} {rate : Decimal}
    (hcurrency : Ledger.currencyFor settings request.currency = .ok currency)
    (hrate : Ledger.rateFor settings request.kind request.rate = .ok rate)
    (hdraws : w.DrawsUnused settings.numberAttempts) (hminted : w.Minted)
    (hroom : (((openAccount request).program settings).runAlone w).2.made ≤ Uuid.serials) :
    (openAccount request).Succeeds settings w := by
  have hopen : Ledger.openAccount settings request = Ledger.openWith request currency rate
      settings.numberAttempts settings.numberAttempts := by
    unfold Ledger.openAccount
    rw [hcurrency, hrate]
    rfl
  have hrun : ((openAccount request).program settings).runAlone w = (_, _) :=
    runAlone_map (Ledger.openAccount settings request) Answer.account w
  rw [hrun, hopen] at hroom
  rcases Ledger.exists_openWith hdraws hminted hroom with ⟨a, v, hopened⟩
  refine ⟨.account a, v, hrun.trans ?_⟩
  rw [hopen, hopened]
  rfl

theorem hasMade_openAccount {request : OpenRequest} {a : Account}
    (hrun : ((openAccount request).program settings).runAlone w = (.ok (.account a), v)) :
    v.HasMade a.id.uuid := by
  rcases (runAlone_bind_eq_ok_iff _ _ _ _ _).mp hrun with ⟨_, _, hrun, hanswer⟩
  cases hanswer
  rcases (runAlone_bind_eq_ok_iff _ _ _ _ _).mp hrun with ⟨_, _, _, hrun⟩
  rcases (runAlone_bind_eq_ok_iff _ _ _ _ _).mp hrun with ⟨_, _, _, hrun⟩
  exact Ledger.hasMade_openWith hrun

theorem hasMade_createHold {request : HoldRequest} {h : Hold}
    (hrun : ((createHold request).program settings).runAlone w = (.ok (.hold h), v)) :
    v.HasMade h.id.uuid := by
  rcases (runAlone_bind_eq_ok_iff _ _ _ _ _).mp hrun with ⟨_, _, hrun, hanswer⟩
  cases hanswer
  exact Ledger.hasMade_createHold hrun

/-- Every request keeps all rows stored under identifiers that were made. -/
theorem minted_runAlone {r : Request} (hr : r.isMutating = true) (h : w.Minted) :
    ((r.program settings).runAlone w).2.Minted := by
  have hmade := made_le_runAlone (r.program settings) w
  have houtcome := outcome settings hr w
  generalize hrun : (r.program settings).runAlone w = out at hmade houtcome
  cases houtcome with
  | refused hstore => exact h.mono hstore hmade
  | changed hfulfilled hanswered heffect =>
      refine h.of_effect hmade heffect ?_ ?_
      · rintro a rfl
        cases hfulfilled
        cases hanswered
        exact hasMade_openAccount hrun
      · rintro g rfl
        cases hfulfilled
        cases hanswered
        exact hasMade_createHold hrun

end Request

end BankLedger
