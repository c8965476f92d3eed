import BankLedger.Proofs.Store.Release

/-!
# What a Call Leaves Alone

A call writes a few fields of one row, and everything else stays. This is said once for all calls:
nothing that is in the store is ever taken out of it, what comes in is what the call brings, and of
the rows that are there only the one that the call is about is written, and only in the fields that
the call is for.

A store that kept a copy of a row aside and wrote it back later would not do so. It would undo what
others had written in the meantime, and a row would change in fields that no call since then was
for. So it is also said what stays through a whole run: the fields that no call is for stay for
ever, and a rate stays until a call sets another one, whatever else is under way.

## Main definitions

* `Call.number?`, `Call.hold?`: The number and the hold that a call names.
* `Account.Kept`: What may become of an account.
* `Store.Framed`: What a call leaves alone.
* `Store.Lasting`: What stays through a run.

## Theorems

* `Effect.new_or_kept`: An account is new, or the same one as before.
* `Effect.framed`: It leaves everything else alone.
* `Effect.entry_of_ne`, `Effect.hold_of_ne`: It leaves alone what it does not name.
* `Framed.rate_cases`: A rate changes only when it is set.
* `lasting_afterAll`, `rate_afterAll`: The same for every run.
-/

namespace BankLedger

namespace Call

/-- The number that a call gives to a new account. -/
def number? : Call → Option AccountNumber
  | .createAccount a => some a.number
  | _ => none

/-- The hold that a call adds or releases. -/
def hold? : Call → Option HoldId
  | .createHold h => some h.id
  | .releaseHold k _ => some k
  | _ => none

end Call

/-- What may become of an account: its money, its status with the date of closing, and its rate may
    change, and everything else stays. -/
def Account.Kept (a b : Account) : Prop :=
  { a with
    balance := b.balance
    available := b.available
    status := b.status
    rate := b.rate
    closedAt := b.closedAt
    updatedAt := b.updatedAt } = b

namespace Account

theorem Kept.refl (a : Account) : a.Kept a := rfl

theorem Kept.trans {a b b' : Account} (h : a.Kept b) (h' : b.Kept b') : a.Kept b' := by
  unfold Kept at h h' ⊢
  rw [← h', ← h]

theorem Kept.number_eq {a b : Account} (h : a.Kept b) : b.number = a.number := by
  unfold Kept at h
  rw [← h]

theorem Kept.currency_eq {a b : Account} (h : a.Kept b) : b.currency = a.currency := by
  unfold Kept at h
  rw [← h]

theorem Kept.customer_eq {a b : Account} (h : a.Kept b) : b.customer = a.customer := by
  unfold Kept at h
  rw [← h]

end Account

-- The fields that are named in `Kept` are all those that some call is for, so in each case the
-- account afterwards is taken apart and put together again.
/-- What any call writes leaves the account the same one. -/
theorem Call.Writes.kept {c : Call} {a b : Account} (h : c.Writes a b) : a.Kept b := by
  cases c with
  | amend | changeStatus | applyDelta | createHold | releaseHold =>
      obtain ⟨⟩ := b
      cases h
      rfl
  | createAccount | getAccount | getByNumber | accountsOf | getHold | activeHolds =>
      cases h
      exact .refl a

/-- A rate is written only when it is set. -/
theorem Call.Writes.rate_cases {c : Call} {a b : Account} (h : c.Writes a b) :
    b.rate = a.rate ∨ ∃ id status, c = .amend id status (some b.rate) := by
  cases c with
  | amend id status rate =>
      have hrate : rate.getD a.rate = b.rate := congrArg Account.rate h
      cases rate with
      | none => exact Or.inl hrate.symm
      | some r => exact Or.inr ⟨id, status, by rw [← hrate]; rfl⟩
  | changeStatus | applyDelta | createHold | releaseHold | createAccount | getAccount | getByNumber
  | accountsOf | getHold | activeHolds => exact Or.inl (congrArg Account.rate h).symm

namespace Store

variable {s t : Store} {now : Instant} {c : Call} {id : AccountId} {a b : Account}

/-- What a call leaves alone. -/
structure Framed (s : Store) (c : Call) (t : Store) : Prop where
  /-- No account is lost, and only the one that the call is about is written. -/
  account : ∀ id a, s.accounts.get? id = some a → ∃ b, t.accounts.get? id = some b ∧
    (b = a ∨ s.about c = some id ∧ c.Writes a b)
  newAccount : ∀ id b, s.accounts.get? id = none → t.accounts.get? id = some b →
    c = .createAccount b
  entry : ∀ n e, s.index.get? n = some e → t.index.get? n = some e
  newEntry : ∀ n e, s.index.get? n = none → t.index.get? n = some e →
    ∃ a, c = .createAccount a ∧ e = (a.number, a.id)
  /-- No hold is lost, and one that is written is released. -/
  hold : ∀ k h, s.holds.get? k = some h → ∃ g, t.holds.get? k = some g ∧
    (g = h ∨ ∃ time, c = .releaseHold k time ∧ g = { h with releasedAt := some time })
  newHold : ∀ k g, s.holds.get? k = none → t.holds.get? k = some g → c = .createHold g

theorem framed_refl (s : Store) (c : Call) : s.Framed c s where
  account _ a ha := ⟨a, ha, Or.inl rfl⟩
  newAccount _ _ hnone hb := by rw [hnone] at hb; cases hb
  entry _ _ he := he
  newEntry _ _ hnone he := by rw [hnone] at he; cases he
  hold _ h hh := ⟨h, hh, Or.inl rfl⟩
  newHold _ _ hnone hg := by rw [hnone] at hg; cases hg

/-- Of the numbers only the one that a call gives to a new account is written. -/
theorem Effect.entry_cases (h : Effect s now c t) (n : AccountNumber) :
    t.index.get? n = s.index.get? n ∨ ∃ a, c = .createAccount a ∧ a.number = n ∧
      s.index.get? n = none ∧ t.index.get? n = some (a.number, a.id) := by
  cases h with
  | looked | amended | acted | moved | held | released => exact Or.inl rfl
  | @opened a index accounts hindex haccounts =>
      by_cases hn : a.number = n
      · refine Or.inr ⟨a, rfl, hn, hn ▸ Table.get?_eq_none_of_insert? hindex, ?_⟩
        exact (Table.get?_insert? hindex n).trans (if_pos hn)
      · exact Or.inl ((Table.get?_insert? hindex n).trans (if_neg hn))

theorem Effect.entry_of_ne (h : Effect s now c t) {n : AccountNumber} (hn : c.number? ≠ some n) :
    t.index.get? n = s.index.get? n := by
  rcases h.entry_cases n with hsame | ⟨a, rfl, rfl, _⟩
  · exact hsame
  · exact absurd rfl hn

/-- A hold that is found after a call is the one that was there before, or the call named it. -/
theorem Effect.hold_of_ne (h : Effect s now c t) {k : HoldId} (hk : c.hold? ≠ some k) :
    t.holds.get? k = s.holds.get? k := by
  cases h with
  | looked | opened | amended | acted | moved => rfl
  | held _ hholds _ =>
      exact (Table.get?_insert? hholds k).trans (if_neg fun heq => hk (congrArg some heq))
  | released hh _ _ _ =>
      exact (get?_replace_released hh _ k).trans (if_neg fun heq => hk (congrArg some heq))

/-- An account that is found after a call is new, or the same one as before. -/
theorem Effect.new_or_kept (h : Effect s now c t) (hb : t.accounts.get? id = some b) :
    c = .createAccount b ∨ ∃ a, s.accounts.get? id = some a ∧ a.Kept b := by
  rcases h.account_cases hb with hnew | hsame | ⟨a, ha, hchange⟩
  · exact Or.inl hnew
  · exact Or.inr ⟨b, hsame, .refl b⟩
  · exact Or.inr ⟨a, ha, hchange.writes.kept⟩

/-- A call that succeeds leaves alone all that is not its own. -/
theorem Effect.framed (heffect : Effect s now c t) : s.Framed c t where
  account id a ha := by
    rcases heffect.account_step ha with ⟨b, hb, hsame | ⟨hchange, habout⟩⟩
    · exact ⟨b, hb, Or.inl hsame⟩
    · exact ⟨b, hb, Or.inr ⟨habout, hchange.writes⟩⟩
  newAccount id b hnone hb := by
    rcases heffect.account_cases hb with hnew | hold | ⟨a, hold, _⟩
    · exact hnew
    · cases hnone.symm.trans hold
    · cases hnone.symm.trans hold
  entry n e he := by
    rcases heffect.entry_cases n with hsame | ⟨a, _, _, hfree, _⟩
    · exact hsame.trans he
    · cases hfree.symm.trans he
  newEntry n e hnone he := by
    rcases heffect.entry_cases n with hsame | ⟨a, rfl, _, _, hnew⟩
    · cases hnone.symm.trans (hsame.symm.trans he)
    · exact ⟨a, rfl, Option.some.inj (he.symm.trans hnew)⟩
  hold k h hh := by
    rcases heffect.hold_step hh with ⟨g, hg, _⟩
    refine ⟨g, hg, ?_⟩
    rcases heffect.hold_cases hg with ⟨_, hfree⟩ | hold | ⟨h', time, hold, _, hc, hreleased⟩
    · cases hfree.symm.trans hh
    · exact Or.inl (Option.some.inj (hold.symm.trans hh))
    · cases hold.symm.trans hh
      exact Or.inr ⟨time, hc, hreleased⟩
  newHold k g hnone hg := by
    rcases heffect.hold_cases hg with ⟨hnew, _⟩ | hold | ⟨h, time, hold, _⟩
    · exact hnew
    · cases hnone.symm.trans hold
    · cases hnone.symm.trans hold

/-- So does every call, whatever comes of it. -/
theorem framed_after (s : Store) (now : Instant) (c : Call) : s.Framed c (s.after now c) := by
  rcases after_cases s now c with hsame | ⟨_, heffect⟩
  · rw [hsame]
    exact framed_refl s c
  · exact heffect.framed

/-- What stays through a run. -/
structure Lasting (s t : Store) : Prop where
  account : ∀ id a, s.accounts.get? id = some a → ∃ b, t.accounts.get? id = some b ∧ a.Kept b
  entry : ∀ n e, s.index.get? n = some e → t.index.get? n = some e
  hold : ∀ k h, s.holds.get? k = some h → ∃ g, t.holds.get? k = some g ∧ h.Kept g

theorem Lasting.refl (s : Store) : s.Lasting s where
  account _ a ha := ⟨a, ha, .refl a⟩
  entry _ _ he := he
  hold _ h hh := ⟨h, hh, .refl h⟩

theorem Lasting.trans {u : Store} (h : s.Lasting t) (h' : t.Lasting u) : s.Lasting u where
  account id a ha := by
    rcases h.account id a ha with ⟨b, hb, hkept⟩
    rcases h'.account id b hb with ⟨b', hb', hkept'⟩
    exact ⟨b', hb', hkept.trans hkept'⟩
  entry n e he := h'.entry n e (h.entry n e he)
  hold k g hg := by
    rcases h.hold k g hg with ⟨f, hf, hkept⟩
    rcases h'.hold k f hf with ⟨f', hf', hkept'⟩
    exact ⟨f', hf', hkept.trans hkept'⟩

/-- A call that succeeds leaves every account and every hold the same one. -/
theorem Effect.lasting (h : Effect s now c t) : s.Lasting t where
  account id a ha := by
    rcases h.framed.account id a ha with ⟨b, hb, rfl | ⟨_, hwrites⟩⟩
    · exact ⟨b, hb, .refl b⟩
    · exact ⟨b, hb, hwrites.kept⟩
  entry := h.framed.entry
  hold _ _ hh := h.hold_step hh

theorem lasting_afterAll (s : Store) (calls : List (Instant × Call)) :
    s.Lasting (s.afterAll calls) :=
  afterAll_induction (P := s.Lasting) (fun _ => True)
    (fun _ _ _ _ _ hlasting heffect => hlasting.trans heffect.lasting) s (.refl s) calls
    fun _ _ => trivial

/-- A rate changes only when it is set, and on the account on which it is set. -/
theorem Framed.rate_cases (h : s.Framed c t) (ha : s.accounts.get? id = some a) :
    ∃ b, t.accounts.get? id = some b ∧
      (b.rate = a.rate ∨ ∃ status, c = .amend id status (some b.rate)) := by
  rcases h.account id a ha with ⟨b, hb, rfl | ⟨habout, hwrites⟩⟩
  · exact ⟨b, hb, Or.inl rfl⟩
  · refine ⟨b, hb, hwrites.rate_cases.imp_right ?_⟩
    rintro ⟨id', status, rfl⟩
    cases habout
    exact ⟨status, rfl⟩

-- By induction on the run: the rate that is found at the end is the one at the beginning, or it was
-- set by a call, and then it does not matter what it was before.
/-- A rate stays through a run, unless the run sets another one. -/
theorem rate_afterAll (ha : s.accounts.get? id = some a) (calls : List (Instant × Call)) :
    ∃ b, (s.afterAll calls).accounts.get? id = some b ∧
      (b.rate = a.rate ∨ ∃ now status, (now, .amend id status (some b.rate)) ∈ calls) := by
  induction calls generalizing s a with
  | nil => exact ⟨a, ha, Or.inl rfl⟩
  | cons c rest ih =>
      rcases c with ⟨now, c⟩
      rcases (framed_after s now c).rate_cases ha with ⟨b, hb, hfirst⟩
      rcases ih hb with ⟨b', hb', hlater⟩
      refine ⟨b', hb', ?_⟩
      rcases hlater with hsame | ⟨time, status, hmem⟩
      · rw [hsame]
        refine hfirst.imp_right ?_
        rintro ⟨status, rfl⟩
        exact ⟨now, status, List.mem_cons_self⟩
      · exact Or.inr ⟨time, status, List.mem_cons_of_mem _ hmem⟩

end Store

end BankLedger
