import BankLedger.Proofs.Store.Effect
import Mathlib.Data.List.Nodup

/-!
# Writing in Place

The store is defined by what a call makes of it, and a refused call makes nothing of it. A store
that lives in memory works differently. It writes one field after the other into rows that everybody
sees, and whatever has been written when a refusal comes stays written. Here the calls are spelled
out in that way, with their checks and writes in the order in which they are made, and it is shown
that it comes to the same: no call writes anything before its last check.

## Main definitions

* `InPlace`: What is done in place, and may be refused half-way.
* `InPlace.settled`: All of a change, or nothing of it.
* `InPlace.perform`: Carries a call of the store out in place.

## Theorems

* `InPlace.applyDelta_eq`, `InPlace.reserve_eq`, `InPlace.restore_eq`, `InPlace.apply_eq`,
  `InPlace.amend_eq`: The operations of an account are settled.
* `InPlace.onRow_of_found`: So is an operation on a row of the store.
* `InPlace.perform_eq`: So are the calls of the store.
* `InPlace.eq_of_refused`: A refused call leaves the store as it was.
-/

namespace BankLedger

namespace Table

variable {κ ρ : Type} [DecidableEq κ] {key : ρ → κ}

/-- Puts a row in, whether or not its key is free. -/
def put (t : Table key) (r : ρ) : Table key := (t.insert? r).getD (t.replace r)

theorem put_of_insert? {t u : Table key} {r : ρ} (h : t.insert? r = some u) : t.put r = u := by
  unfold put
  rw [h, Option.getD_some]

/-- To replace a row by itself changes nothing. -/
theorem replace_self {t : Table key} {k : κ} {r : ρ} (h : t.get? k = some r) : t.replace r = t := by
  obtain ⟨rows, distinct⟩ := t
  unfold replace
  congr 1
  rw [List.map_congr_left (g := id), List.map_id]
  intro s hs
  by_cases hkey : key s = key r
  · rw [if_pos hkey, List.inj_on_of_nodup_map distinct hs (mem_of_get? h) hkey, id]
  · rw [if_neg hkey, id]

end Table

/-- What is done in place. When it is refused, what was written before stays written. -/
def InPlace (σ α : Type) : Type := σ → Except LedgerError α × σ

namespace InPlace

variable {σ α β : Type}

instance : Monad (InPlace σ) where
  pure a := fun s => (.ok a, s)
  bind p f := fun s => match p s with
    | (.ok a, t) => f a t
    | (.error e, t) => (.error e, t)

/-- Looks at what is there. -/
def read : InPlace σ σ := fun s => (.ok s, s)

/-- Goes on only if a check is passed. -/
def check (r : Except LedgerError α) : InPlace σ α := fun s => (r, s)

/-- Is refused. -/
def refuse (e : LedgerError) : InPlace σ α := check (.error e)

def write (f : σ → σ) : InPlace σ Unit := fun s => (.ok (), f s)

/-- All of a change, or nothing of it. -/
def settled (s : σ) : Except LedgerError (α × σ) → Except LedgerError α × σ
  | .ok (a, t) => (.ok a, t)
  | .error e => (.error e, s)

@[simp] theorem pure_apply (a : α) (s : σ) : (pure a : InPlace σ α) s = (.ok a, s) := rfl

@[simp] theorem read_bind (f : σ → InPlace σ β) (s : σ) : (read >>= f) s = f s s := rfl

@[simp] theorem check_ok_bind (a : α) (f : α → InPlace σ β) (s : σ) :
    (check (.ok a) >>= f) s = f a s := rfl

@[simp] theorem check_error_bind (e : LedgerError) (f : α → InPlace σ β) (s : σ) :
    (check (.error e) >>= f) s = (.error e, s) := rfl

@[simp] theorem write_bind (g : σ → σ) (f : Unit → InPlace σ β) (s : σ) :
    (write g >>= f) s = f () (g s) := rfl

theorem bind_of_ok {p : InPlace σ α} {s t : σ} {a : α} (h : p s = (.ok a, t))
    (f : α → InPlace σ β) : (p >>= f) s = f a t := by
  change (match p s with | (.ok a, t) => f a t | (.error e, t) => (.error e, t)) = _
  rw [h]

theorem bind_of_error {p : InPlace σ α} {s t : σ} {e : LedgerError} (h : p s = (.error e, t))
    (f : α → InPlace σ β) : (p >>= f) s = (.error e, t) := by
  change (match p s with | (.ok a, t) => f a t | (.error e, t) => (.error e, t)) = _
  rw [h]

/-- To look is to write nothing. -/
theorem look_eq (x : Except LedgerError α) (s : σ) : (x, s) = settled s (x.map (·, s)) := by
  cases x with
  | error e => rfl
  | ok a => rfl

section Account

/-- Both sums are computed before either of them is written. -/
def applyDelta (delta : Decimal) (now : Instant) : InPlace Account Unit := do
  let a ← read
  let balance ← check (a.inRange (a.balance.add? delta))
  if balance.isNegative then refuse (.insufficientFunds a.id)
  let available ← check (a.inRange (a.available.add? delta))
  write ({ · with balance := balance })
  write ({ · with available := available })
  write ({ · with updatedAt := now })

def reserve (amount : Amount) (now : Instant) : InPlace Account Unit := do
  let a ← read
  if a.available.lt amount.value then refuse (.insufficientFunds a.id)
  let available ← check (a.inRange (a.available.sub? amount.value))
  write ({ · with available := available })
  write ({ · with updatedAt := now })

def restore (amount : Amount) (now : Instant) : InPlace Account Unit := do
  let a ← read
  let available ← check (a.inRange (a.available.add? amount.value))
  write ({ · with available := available })
  write ({ · with updatedAt := now })

/-- The status is written first, and what follows looks at the status that is there then. -/
def apply (action : Action) (now : Instant) : InPlace Account Account := do
  let a ← read
  let status ← check (a.transition action)
  write ({ · with status := status })
  let a ← read
  if a.status = .closed then write fun a => { a with closedAt := some (a.closedAt.getD now) }
  write ({ · with updatedAt := now })
  read

def amend (status : Option Status) (rate : Option Decimal) (now : Instant) :
    InPlace Account Account := do
  let a ← read
  if a.status = .closed then refuse (.invalidState (.closed a.id))
  if status = some .closed then refuse (.invalidArgument .closing)
  if let some status := status then write ({ · with status := status })
  if let some rate := rate then write ({ · with rate := rate })
  write ({ · with updatedAt := now })
  read

variable (a : Account) (now : Instant)

theorem applyDelta_eq (delta : Decimal) :
    applyDelta delta now a = settled a ((a.applyDelta delta now).map ((), ·)) := by
  unfold applyDelta Account.applyDelta
  rw [read_bind]
  rcases a.inRange (a.balance.add? delta) with e | balance
  · rfl
  · rw [check_ok_bind, Attempt.ok_bind]
    cases balance.isNegative with
    | true => rfl
    | false =>
        rcases a.inRange (a.available.add? delta) with e | available
        · rfl
        · rfl

theorem reserve_eq (amount : Amount) :
    reserve amount now a = settled a ((a.reserve amount now).map ((), ·)) := by
  unfold reserve Account.reserve
  rw [read_bind]
  cases a.available.lt amount.value with
  | true => rfl
  | false =>
      rcases a.inRange (a.available.sub? amount.value) with e | available
      · rfl
      · rfl

theorem restore_eq (amount : Amount) :
    restore amount now a = settled a ((a.restore amount now).map ((), ·)) := by
  unfold restore Account.restore
  rw [read_bind]
  rcases a.inRange (a.available.add? amount.value) with e | available
  · rfl
  · rfl

theorem apply_eq (action : Action) :
    apply action now a = settled a ((a.apply action now).map fun b => (b, b)) := by
  unfold apply Account.apply
  rw [read_bind]
  rcases a.transition action with e | status
  · rfl
  · -- The status that was written decides whether the time of closing is written too.
    rw [check_ok_bind, write_bind, read_bind, Attempt.ok_bind]
    by_cases hclosed : status = .closed
    · subst hclosed
      rfl
    · simp only [hclosed, if_false]
      rfl

theorem amend_eq (status : Option Status) (rate : Option Decimal) :
    amend status rate now a = settled a ((a.amend status rate now).map fun b => (b, b)) := by
  unfold amend Account.amend
  rw [read_bind]
  by_cases hclosed : a.status = .closed
  · rw [if_pos hclosed, if_pos hclosed]
    rfl
  · rw [if_neg hclosed, if_neg hclosed]
    by_cases hclosing : status = some .closed
    · rw [if_pos hclosing, if_pos hclosing]
      rfl
    · rw [if_neg hclosing, if_neg hclosing]
      cases status with
      | none =>
          cases rate with
          | none => rfl
          | some rate => rfl
      | some status =>
          cases rate with
          | none => rfl
          | some rate => rfl

end Account

section Store

/-- Works in place on a row of the store. Whatever comes of it, the row is left as it is then. -/
def onRow (id : AccountId) (p : InPlace Account α) : InPlace Store α := fun s =>
  match s.account id with
  | .ok a => ((p a).1, s.setAccount (p a).2)
  | .error e => (.error e, s)

/-- The number is written before the row. -/
def createAccount (a : Account) : InPlace Store Unit := do
  let s ← read
  if (s.index.get? a.number).isSome then refuse (.alreadyExists (.number a.number))
  if (s.accounts.get? a.id).isSome then refuse (.alreadyExists (.account a.id))
  write fun s => { s with index := s.index.put (a.number, a.id) }
  write fun s => { s with accounts := s.accounts.put a }

/-- The row is written before the hold. -/
def createHold (h : Hold) (now : Instant) : InPlace Store Unit := do
  let s ← read
  let _ ← check (s.account h.account)
  if (s.holds.get? h.id).isSome then refuse (.alreadyExists (.hold h.id))
  onRow h.account (reserve h.amount now)
  write fun s => { s with holds := s.holds.put h }

/-- The row is written before the hold is marked. -/
def releaseHold (id : HoldId) (now : Instant) : InPlace Store Hold := do
  let s ← read
  let h ← check (s.hold id)
  let _ ← check (s.account h.account)
  if h.isActive then pure () else refuse (.alreadyReleased id)
  onRow h.account (restore h.amount now)
  write fun s => { s with holds := s.holds.replace { h with releasedAt := some now } }
  let s ← read
  check (s.hold id)

/-- Carries a call out in place. -/
def perform (now : Instant) : (c : Call) → InPlace Store c.Reply
  | .createAccount a => createAccount a
  | .getAccount id => read >>= fun s => check (s.account id)
  | .getByNumber n => read >>= fun s => check (s.byNumber n)
  | .accountsOf customer => read >>= fun s => pure (s.accountsOf customer)
  | .amend id status rate => onRow id (amend status rate now)
  | .changeStatus id action time => onRow id (apply action time)
  | .applyDelta id delta => onRow id (applyDelta delta now)
  | .createHold h => createHold h now
  | .releaseHold id time => releaseHold id time
  | .getHold id => read >>= fun s => check (s.hold id)
  | .activeHolds id => read >>= fun s => pure (s.activeHolds id)

variable (s : Store)

/-- What is settled on a row is settled in the store: a refused operation has written nothing that
    could be left in the row. -/
theorem onRow_of_found {id : AccountId} {a : Account} {p : InPlace Account α}
    {x : Except LedgerError (α × Account)} (ha : s.account id = .ok a) (hp : p a = settled a x) :
    onRow id p s = settled s (x.map fun r => (r.1, s.setAccount r.2)) := by
  unfold onRow
  rw [ha]
  simp only [hp]
  rcases x with e | ⟨r, b⟩
  · have hsame : s.setAccount a = s := by
      unfold Store.setAccount
      rw [Table.replace_self ((s.account_eq_ok_iff id a).mp ha)]
    exact congrArg (Prod.mk _) hsame
  · rfl

theorem onRow_eq (id : AccountId) {p : InPlace Account α}
    {f : Account → Except LedgerError Account} {reply : Account → α}
    (hp : ∀ a, p a = settled a ((f a).map fun b => (reply b, b))) :
    onRow id p s = settled s ((s.changeAccount id f).map fun r => (reply r.1, r.2)) := by
  unfold Store.changeAccount
  rcases hfound : s.account id with e | a
  · unfold onRow
    rw [hfound]
    rfl
  · rw [onRow_of_found s hfound (hp a), Attempt.ok_bind]
    rcases f a with e | b
    · rfl
    · rfl

theorem createAccount_eq (a : Account) :
    createAccount a s = settled s ((s.createAccount a).map ((), ·)) := by
  unfold createAccount Store.createAccount
  rw [read_bind]
  rcases hnumber : s.index.get? a.number with _ | entry
  · rcases Table.exists_insert? (r := (a.number, a.id)) hnumber with ⟨index, hindex⟩
    rcases hrow : s.accounts.get? a.id with _ | row
    · rcases Table.exists_insert? hrow with ⟨accounts, haccounts⟩
      rw [hindex, haccounts]
      change (Except.ok (), { s with
        index := s.index.put (a.number, a.id), accounts := s.accounts.put a }) = _
      rw [Table.put_of_insert? hindex, Table.put_of_insert? haccounts]
      rfl
    · rw [hindex, (Table.insert?_eq_none_iff _ a).mpr ⟨row, hrow⟩]
      rfl
  · rw [(Table.insert?_eq_none_iff _ (a.number, a.id)).mpr ⟨entry, hnumber⟩]
    rfl

theorem createHold_eq (h : Hold) (now : Instant) :
    createHold h now s = settled s ((s.createHold h now).map ((), ·)) := by
  unfold createHold Store.createHold
  rw [read_bind]
  rcases hfound : s.account h.account with e | a
  · rfl
  · rw [check_ok_bind, Attempt.ok_bind]
    rcases hhold : s.holds.get? h.id with _ | other
    · rcases Table.exists_insert? hhold with ⟨holds, hholds⟩
      have hrow := onRow_of_found s hfound (reserve_eq a now h.amount)
      simp only [hholds]
      change (onRow h.account (reserve h.amount now) >>= fun _ => write _) s = _
      rcases hreserve : a.reserve h.amount now with e | b
      all_goals rw [hreserve] at hrow
      · exact bind_of_error hrow _
      · refine (bind_of_ok hrow _).trans ?_
        change (Except.ok (), { s.setAccount b with holds := s.holds.put h }) = _
        rw [Table.put_of_insert? hholds]
        rfl
    · simp only [(Table.insert?_eq_none_iff _ h).mpr ⟨other, hhold⟩]
      rfl

theorem releaseHold_eq (id : HoldId) (now : Instant) :
    releaseHold id now s = settled s (s.releaseHold id now) := by
  unfold releaseHold Store.releaseHold
  rw [read_bind]
  rcases hhold : s.hold id with e | h
  · rfl
  · rw [check_ok_bind, Attempt.ok_bind]
    rcases hfound : s.account h.account with e | a
    · rfl
    · rw [check_ok_bind, Attempt.ok_bind]
      unfold Hold.markReleased
      cases h.isActive with
      | false => rfl
      | true =>
          have hrow := onRow_of_found s hfound (restore_eq a now h.amount)
          have hkey := Table.key_of_get? ((s.hold_eq_ok_iff id h).mp hhold)
          change (onRow h.account (restore h.amount now) >>= fun _ => _) s = _
          rcases hrestore : a.restore h.amount now with e | b
          all_goals rw [hrestore] at hrow
          · exact bind_of_error hrow _
          · refine (bind_of_ok hrow _).trans ?_
            -- The hold is read back as it was marked.
            have hmarked : (s.holds.replace { h with releasedAt := some now }).get? id
                = some { h with releasedAt := some now } := by
              rw [Table.get?_replace, if_pos hkey, (s.hold_eq_ok_iff id h).mp hhold,
                Option.map_some]
            exact congrArg (·, _) ((Store.hold_eq_ok_iff { s.setAccount b with
              holds := s.holds.replace { h with releasedAt := some now } } id _).mpr hmarked)

/-- A call that is carried out in place comes to what the store says: all of it, or nothing. -/
theorem perform_eq (now : Instant) (c : Call) :
    perform now c s = settled s (s.perform now c) := by
  cases c with
  | createAccount a => exact createAccount_eq s a
  | createHold h => exact createHold_eq s h now
  | releaseHold id time => exact releaseHold_eq s id time
  | amend id status rate =>
      refine (onRow_eq s id (amend_eq · now status rate)).trans (congrArg (settled s) ?_)
      exact congrFun Except.map_id _
  | changeStatus id action time =>
      refine (onRow_eq s id (apply_eq · time action)).trans (congrArg (settled s) ?_)
      exact congrFun Except.map_id _
  | applyDelta id delta => exact onRow_eq s id (applyDelta_eq · now delta)
  | accountsOf customer => rfl
  | activeHolds id => rfl
  | getAccount id => exact look_eq (s.account id) s
  | getByNumber n => exact look_eq (s.byNumber n) s
  | getHold id => exact look_eq (s.hold id) s

/-- A call that is refused in place leaves the store as it was. -/
theorem eq_of_refused {s t : Store} {now : Instant} {c : Call} {e : LedgerError}
    (h : perform now c s = (.error e, t)) : t = s := by
  rw [perform_eq] at h
  rcases hrun : s.perform now c with e' | ⟨reply, u⟩
  · rw [hrun] at h
    exact (congrArg Prod.snd h).symm
  · rw [hrun] at h
    cases h

end Store

end InPlace

end BankLedger
