import BankLedger.Proofs.Store.Frame

/-!
# The Numbers of the Accounts

Accounts and numbers are kept in two tables, and only one call writes to both. The table of numbers
is never looked at again once an account is there, so nothing would show that the two do not fit
together, except that the wrong account is found. Here it is shown that they do: a number leads to
an account exactly when it is the number of that account.

It takes both checks of a new account for that. Without the one an account would take the number of
another, without the other it would take the place of one whose number still leads there.

A number may be looked up first and the account that it leads to later, with other calls in between.
What is found is the same as if both had been looked up later.

## Main definitions

* `Store.Indexed`: The numbers lead to the accounts that have them.
* `Store.FoundByNumber`: What comes of looking a number up.
* `Store.Numbered`: What follows for the accounts and for the calls that ask for them.

## Theorems

* `Indexed.effect`: A call keeps the two tables together.
* `createAccount_of_number_taken`, `createAccount_of_id_taken`: What is taken is refused.
* `Indexed.numbered`: No two accounts share a number, and none is given again.
* `numbered_afterAll`: So it is after every run.
-/

namespace BankLedger

namespace Store

variable {s t : Store} {now : Instant} {c : Call}

/-- The numbers lead to the accounts that have them. -/
def Indexed (s : Store) : Prop := ∀ n id,
  s.index.get? n = some (n, id) ↔ ∃ a, s.accounts.get? id = some a ∧ a.number = n

theorem indexed_empty : Indexed empty := by
  intro n id
  constructor
  · intro h
    cases h
  · rintro ⟨a, ha, _⟩
    cases ha

/-- An account is added with its number, and both were free before. -/
theorem Indexed.insert (h : s.Indexed) {a : Account}
    {index : Table (Prod.fst : AccountNumber × AccountId → AccountNumber)}
    {accounts : Table Account.id} (hindex : s.index.insert? (a.number, a.id) = some index)
    (haccounts : s.accounts.insert? a = some accounts) :
    ({ s with accounts := accounts, index := index } : Store).Indexed := by
  have hnumber : s.index.get? a.number = none := Table.get?_eq_none_of_insert? hindex
  have hid := Table.get?_eq_none_of_insert? haccounts
  intro n id
  change index.get? n = some (n, id) ↔ ∃ b, accounts.get? id = some b ∧ b.number = n
  rw [Table.get?_insert? hindex, Table.get?_insert? haccounts]
  by_cases hn : a.number = n <;> by_cases hk : a.id = id
  · subst hn hk
    rw [if_pos rfl, if_pos rfl]
    exact iff_of_true rfl ⟨a, rfl, rfl⟩
  · -- The number leads to the new account, and no other one has it.
    subst hn
    rw [if_pos rfl, if_neg hk]
    refine iff_of_false (fun heq => hk (congrArg Prod.snd (Option.some.inj heq))) fun hother => ?_
    cases hnumber.symm.trans ((h a.number id).mpr hother)
  · -- The new account has a number of its own, and no number led to it before.
    subst hk
    rw [if_neg hn, if_pos rfl]
    refine iff_of_false (fun heq => ?_) ?_
    · rcases (h n a.id).mp heq with ⟨b, hb, _⟩
      cases hid.symm.trans hb
    · rintro ⟨b, hb, hnew⟩
      cases hb
      exact hn hnew
  · rw [if_neg hn, if_neg hk]
    exact h n id

/-- While accounts only change and none is added, every account keeps its number. -/
theorem Indexed.of_lasting (h : s.Indexed) (hlasting : s.Lasting t)
    (hnone : ∀ id b, s.accounts.get? id = none → t.accounts.get? id ≠ some b)
    (hindex : t.index = s.index) : t.Indexed := by
  intro n id
  rw [hindex, h n id]
  constructor
  · rintro ⟨a, ha, rfl⟩
    rcases hlasting.account id a ha with ⟨b, hb, hkept⟩
    exact ⟨b, hb, hkept.number_eq⟩
  · rintro ⟨b, hb, rfl⟩
    rcases ha : s.accounts.get? id with _ | a
    · exact absurd hb (hnone id b ha)
    · rcases hlasting.account id a ha with ⟨b', hb', hkept⟩
      cases hb.symm.trans hb'
      exact ⟨a, rfl, hkept.number_eq.symm⟩

/-- A call that succeeds keeps the two tables together. -/
theorem Indexed.effect (h : s.Indexed) (heffect : Effect s now c t) : t.Indexed := by
  have hlasting := heffect.lasting
  have hnew := heffect.framed.newAccount
  cases heffect with
  | looked => exact h
  | opened hindex haccounts => exact h.insert hindex haccounts
  | amended | acted | moved | held | released =>
      exact h.of_lasting hlasting (fun id b hfree hb => nomatch hnew id b hfree hb) rfl

/-- A number that is taken is refused. -/
theorem createAccount_of_number_taken {b : Account} {e : AccountNumber × AccountId}
    (h : s.index.get? b.number = some e) :
    s.createAccount b = .error (.alreadyExists (.number b.number)) := by
  unfold createAccount
  rw [(Table.insert?_eq_none_iff _ (b.number, b.id)).mpr ⟨e, h⟩]

/-- An identifier that is taken is refused as well. -/
theorem createAccount_of_id_taken {a b : Account} (h : s.accounts.get? b.id = some a) :
    ∃ what, s.createAccount b = .error (.alreadyExists what) := by
  unfold createAccount
  rw [(Table.insert?_eq_none_iff _ b).mpr ⟨a, h⟩]
  cases s.index.insert? (b.number, b.id) with
  | none => exact ⟨_, rfl⟩
  | some index => exact ⟨_, rfl⟩

/-- What comes of looking a number up. -/
inductive FoundByNumber (s : Store) (n : AccountNumber) : Except LedgerError Account → Prop where
  /-- There is one account with the number, and it is found as it is. -/
  | found {a : Account} (ha : s.accounts.get? a.id = some a) (hn : a.number = n)
      (honly : ∀ b ∈ s.accounts.rows, b.number = n → b = a) : FoundByNumber s n (.ok a)
  | notFound (hnone : ∀ b ∈ s.accounts.rows, b.number ≠ n) :
      FoundByNumber s n (.error (.accountNotFound (.number n)))

/-- What follows when the two tables fit together, from now on. -/
structure Numbered (s : Store) : Prop where
  indexed : s.Indexed
  /-- No two accounts share a number or an identifier. -/
  unique : ∀ a ∈ s.accounts.rows, ∀ b ∈ s.accounts.rows, a.number = b.number ∨ a.id = b.id → a = b
  /-- A number leads to the one account that has it. -/
  byNumber : ∀ now n, s.FoundByNumber n ((s.perform now (.getByNumber n)).map Prod.fst)
  /-- What is found under a number is what is found under its identifier. -/
  agrees : ∀ now n a, s.perform now (.getByNumber n) = .ok (a, s) ↔
    s.perform now (.getAccount a.id) = .ok (a, s) ∧ a.number = n
  /-- The account may be looked up later than the number. -/
  lookedUp : ∀ n id, s.index.get? n = some (n, id) → ∀ calls,
    (s.afterAll calls).account id = (s.afterAll calls).byNumber n
  /-- A number that was given is not given again, and neither is an identifier. -/
  taken : ∀ a ∈ s.accounts.rows, ∀ calls now b, b.number = a.number ∨ b.id = a.id →
    ∃ what, (s.afterAll calls).perform now (.createAccount b) = .error (.alreadyExists what) ∧
      (b.number = a.number → what = .number b.number)

/-- Each account is found under its number. -/
theorem Indexed.get?_number (h : s.Indexed) {id : AccountId} {a : Account}
    (ha : s.accounts.get? id = some a) : s.index.get? a.number = some (a.number, id) :=
  (h a.number id).mpr ⟨a, ha, rfl⟩

/-- What is found under a number is about that number. -/
theorem exists_of_get?_index {n : AccountNumber} {e : AccountNumber × AccountId}
    (h : s.index.get? n = some e) : ∃ id, e = (n, id) :=
  ⟨e.2, Prod.ext (Table.key_of_get? h) rfl⟩

theorem Indexed.byNumber_eq_ok_iff (h : s.Indexed) (n : AccountNumber) (a : Account) :
    s.byNumber n = .ok a ↔ s.account a.id = .ok a ∧ a.number = n := by
  unfold byNumber
  rw [account_eq_ok_iff]
  rcases hn : s.index.get? n with _ | e
  · refine iff_of_false nofun ?_
    rintro ⟨ha, rfl⟩
    cases hn.symm.trans (h.get?_number ha)
  · rcases exists_of_get?_index hn with ⟨id, rfl⟩
    change s.account id = .ok a ↔ _
    rw [account_eq_ok_iff]
    constructor
    · intro ha
      rcases (h n id).mp hn with ⟨b, hb, hnumber⟩
      cases ha.symm.trans hb
      exact ⟨Table.key_of_get? ha ▸ ha, hnumber⟩
    · rintro ⟨ha, rfl⟩
      cases hn.symm.trans (h.get?_number ha)
      exact ha

/-- Two accounts with one number are the same account. -/
theorem Indexed.eq_of_number_eq (h : s.Indexed) {id id' : AccountId} {a b : Account}
    (ha : s.accounts.get? id = some a) (hb : s.accounts.get? id' = some b)
    (hnumber : a.number = b.number) : a = b := by
  have hentry := h.get?_number ha
  rw [hnumber, h.get?_number hb, Option.some.injEq, Prod.mk.injEq] at hentry
  rw [← hentry.2] at ha
  exact Option.some.inj (ha.symm.trans hb)

theorem Indexed.foundByNumber (h : s.Indexed) (n : AccountNumber) :
    s.FoundByNumber n (s.byNumber n) := by
  rcases hrun : s.byNumber n with e | a
  · -- A number that leads nowhere is on no account, and one that leads somewhere is found there.
    have hnone : s.index.get? n = none := by
      rcases hn : s.index.get? n with _ | entry
      · rfl
      · rcases exists_of_get?_index hn with ⟨id, rfl⟩
        rcases (h n id).mp hn with ⟨a, ha, hnumber⟩
        have hfound : s.account a.id = .ok a :=
          (account_eq_ok_iff s _ a).mpr (Table.key_of_get? ha ▸ ha)
        cases hrun.symm.trans ((h.byNumber_eq_ok_iff n a).mpr ⟨hfound, hnumber⟩)
    unfold byNumber at hrun
    rw [hnone] at hrun
    cases hrun
    refine .notFound fun b hb hnumber => ?_
    have hentry := h.get?_number (Table.get?_of_mem hb)
    rw [hnumber] at hentry
    cases hnone.symm.trans hentry
  · rcases (h.byNumber_eq_ok_iff n a).mp hrun with ⟨hfound, hnumber⟩
    have ha := (account_eq_ok_iff s _ a).mp hfound
    exact .found ha hnumber fun b hb hsame =>
      h.eq_of_number_eq (Table.get?_of_mem hb) ha (hsame.trans hnumber.symm)

/-- A look that succeeds leaves the store as it is. -/
theorem look_eq_ok_iff {α : Type} (x : Except LedgerError α) (s : Store) (a : α) :
    x.map (·, s) = .ok (a, s) ↔ x = .ok a := by
  rw [Attempt.map_eq_ok_iff]
  simp only [Prod.mk.injEq, and_true, exists_eq_right]

/-- When the two tables fit together, no two accounts share a number, and none is given again. -/
theorem Indexed.numbered (h : s.Indexed) : s.Numbered where
  indexed := h
  unique a ha b hb hsame := by
    rcases hsame with hnumber | hid
    · exact h.eq_of_number_eq (Table.get?_of_mem ha) (Table.get?_of_mem hb) hnumber
    · have hfound := Table.get?_of_mem ha
      rw [hid, Table.get?_of_mem hb] at hfound
      exact (Option.some.inj hfound).symm
  byNumber now n := by
    have hfound := h.foundByNumber n
    change s.FoundByNumber n (((s.byNumber n).map (·, s)).map Prod.fst)
    rcases hrun : s.byNumber n with e | a
    · rw [hrun] at hfound
      exact hfound
    · rw [hrun] at hfound
      exact hfound
  agrees now n a := (look_eq_ok_iff (s.byNumber n) s a).trans <|
    (h.byNumber_eq_ok_iff n a).trans (and_congr_left' (look_eq_ok_iff (s.account a.id) s a).symm)
  lookedUp n id hn calls := by
    have hentry := (s.lasting_afterAll calls).entry n _ hn
    unfold byNumber
    rw [hentry]
  taken a ha calls now b hsame := by
    have hlasting := s.lasting_afterAll calls
    by_cases hnumber : b.number = a.number
    · have hentry := hlasting.entry _ _ (h.get?_number (Table.get?_of_mem ha))
      rw [← hnumber] at hentry
      exact ⟨_, congrArg (Except.map _) (createAccount_of_number_taken hentry), fun _ => rfl⟩
    · rcases hlasting.account _ _ (Table.get?_of_mem ha) with ⟨a', ha', _⟩
      rw [← hsame.resolve_left hnumber] at ha'
      rcases createAccount_of_id_taken ha' with ⟨what, hwhat⟩
      exact ⟨what, congrArg (Except.map _) hwhat, fun heq => absurd heq hnumber⟩

/-- After every run from the empty store each number leads to the one account that has it. -/
theorem numbered_afterAll (calls : List (Instant × Call)) : (empty.afterAll calls).Numbered :=
  (afterAll_induction (fun _ => True) (fun _ _ _ _ _ h heffect => h.effect heffect) empty
    indexed_empty calls fun _ _ => trivial).numbered

end Store

end BankLedger
