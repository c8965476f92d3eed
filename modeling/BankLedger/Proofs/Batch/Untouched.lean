import BankLedger.Proofs.Batch.Refinement
import BankLedger.Proofs.Store.Frame

/-!
# What a Command Leaves Alone

A command of a batch names its account in one column and a hold in another. A release goes by the
hold alone: the alias of a hold stands for one hold of the whole batch, and the money goes back to
the account from which it was set aside, whatever the column of the account says. Every other
command is for the account that it names. So the account that a command is for is found through one
of two maps, and for a release the way leads through a row that was written long before.

Whatever a command does, it does it to this one account. The accounts of all other aliases, and all
holds on them, are the same rows afterwards as before. This needs two things that hold throughout a
batch, and they are kept by whatever happens to its ledger: an alias leads to a row, and no two
aliases lead to the same one.

## Main definitions

* `Store.holdsOn`: The holds on an account.
* `Batch.account?`, `Batch.holdsOn`: What there is under an alias.
* `Batch.IsFor`: A command is for the account under an alias.
* `Batch.Known`: Every alias leads to a row of its own.
* `Batch.Step`: What becomes of a batch by a command.
* `Batch.Reached`: The batches that there can be.
* `Batch.Isolated`: What a command leaves alone.

## Theorems

* `Store.Effect.holdsOn_of_ne`: A call leaves the holds on all other accounts alone.
* `Known.step`: A command keeps what is known of the aliases.
* `Known.untouched`: It leaves all accounts and their holds alone but for those that it is for.
* `Reached.isolated`: So does every command in every batch that there can be.
* `not_isolatedByColumn`: The account that a release names is not the one that it is for.
-/

namespace BankLedger

namespace Table

variable {κ ρ : Type} [DecidableEq κ] {key : ρ → κ}

/-- Rows that are picked stay as they are when a row outside takes the place of one outside. -/
theorem filter_replace (p : ρ → Bool) {t : Table key} {r old : ρ} (hold : t.get? (key r) = some old)
    (hp : p old = false) (hr : p r = false) : (t.replace r).rows.filter p = t.rows.filter p := by
  have hsame : ∀ s ∈ t.rows, key s = key r → p s = false := by
    intro s hs hkey
    have hfound := get?_of_mem hs
    rw [hkey, hold] at hfound
    cases hfound
    exact hp
  unfold replace
  simp only
  generalize t.rows = rows at hsame
  induction rows with
  | nil => rfl
  | cons s rest ih =>
      have hrest := ih fun s' hs' => hsame s' (List.mem_cons_of_mem _ hs')
      rw [List.map_cons, List.filter_cons, List.filter_cons, hrest]
      split
      · next hkey =>
          rw [hr, hsame s List.mem_cons_self hkey, if_neg Bool.false_ne_true,
            if_neg Bool.false_ne_true]
      · rfl

end Table

namespace Store

variable {s t : Store} {now : Instant} {c : Call} {id : AccountId}

/-- The holds on an account, the oldest first, released ones included. -/
def holdsOn (s : Store) (id : AccountId) : List Hold := s.holds.rows.filter (·.account = id)

/-- A call leaves the holds on all accounts alone but for the one that it is about. -/
theorem Effect.holdsOn_of_ne (h : Effect s now c t) (hid : s.about c ≠ some id) :
    t.holdsOn id = s.holdsOn id := by
  cases h with
  | looked | opened | amended | acted | moved => rfl
  | @held g _ _ _ _ hholds _ =>
      have hne : g.account ≠ id := fun heq => hid (congrArg some heq)
      unfold holdsOn
      rw [Table.rows_insert? hholds, List.filter_append, List.filter_singleton,
        decide_eq_false hne]
      exact List.append_nil _
  | @released k time g _ _ hg _ _ _ =>
      have hne : g.account ≠ id := fun heq => hid (by
        rw [← heq]
        exact congrArg (Option.map Hold.account) hg)
      have hold : s.holds.get? (Hold.id { g with releasedAt := some time }) = some g :=
        (Table.key_of_get? hg : g.id = k) ▸ hg
      exact Table.filter_replace _ hold (decide_eq_false hne) (decide_eq_false hne)

/-- A call leaves an account alone that it is not about. -/
theorem Effect.account_of_ne (h : Effect s now c t) {a : Account}
    (ha : s.accounts.get? id = some a) (hid : s.about c ≠ some id) :
    t.accounts.get? id = some a := by
  rcases h.framed.account id a ha with ⟨b, hb, rfl | ⟨habout, _⟩⟩
  · exact hb
  · exact absurd habout hid

end Store

namespace Program

/-- A request that runs alone loses no row. -/
theorem lasting_runAlone (settings : Settings) (q : Request) (w : World) :
    w.store.Lasting ((q.program settings).runAlone w).2.store := by
  rcases exists_deeds_runAlone (q.keeps settings) w with ⟨more, _, hchanged⟩
  rw [hchanged.eq_afterAll]
  exact Store.lasting_afterAll _ _

end Program

namespace Batch

variable {settings : Settings} {b b' : Batch} {c : Command} {name : String} {id : AccountId}

/-- The account under an alias. -/
def account? (b : Batch) (name : String) : Option Account := do
  b.world.store.accounts.get? (← b.runner.accounts.lookup name)

/-- The holds on the account under an alias, the oldest first. -/
def holdsOn (b : Batch) (name : String) : List Hold :=
  match b.runner.accounts.lookup name with
  | some id => b.world.store.holdsOn id
  | none => []

/-- The hold that a release refers to. -/
def hold? (b : Batch) (c : Command) : Option Hold := do
  let name ← c.reference
  b.world.store.holds.get? (← b.runner.holds.lookup name)

/-- The command is for the account under this alias. A release is for the account that its hold is
    on, and every other command for the one that it names. -/
def IsFor (b : Batch) (c : Command) (name : String) : Prop :=
  match c.op with
  | .release => ∃ g, b.hold? c = some g ∧ b.runner.accounts.lookup name = some g.account
  | _ => name = c.account

/-- The account that a command is for, once it is there. -/
def target? (b : Batch) (c : Command) : Option AccountId :=
  match c.op with
  | .release => (b.hold? c).map Hold.account
  | _ => b.runner.accounts.lookup c.account

/-- Every alias of an account leads to a row, and no two to the same one. -/
structure Known (b : Batch) : Prop where
  row : ∀ {name id}, b.runner.accounts.lookup name = some id →
    ∃ a, b.world.store.accounts.get? id = some a
  distinct : ∀ {m n id}, b.runner.accounts.lookup m = some id →
    b.runner.accounts.lookup n = some id → m = n

/-- A ledger with more in it will do as well. -/
theorem Known.mono (h : b.Known) {w : World} (hlasting : b.world.store.Lasting w.store) :
    Known { b with world := w } where
  row hid := by
    rcases h.row hid with ⟨a, ha⟩
    rcases hlasting.account _ a ha with ⟨a', ha', _⟩
    exact ⟨a', ha'⟩
  distinct := h.distinct

/-- What becomes of a batch by a command. -/
inductive Step (b : Batch) (c : Command) : Batch → Prop where
  /-- The command fails, and at most time has passed. -/
  | kept {w : World} (hstore : w.store = b.world.store) : Step b c { b with world := w }
  /-- The request of the command has made its change. -/
  | changed {q : Request} {answer : Answer} {w : World} {time : Instant} {call : Call}
      {reply : call.Reply} (hrequest : b.runner.request c = .ok q)
      (hfulfilled : q.FulfilledBy b.settings call) (hanswered : call.Answered reply answer)
      (heffect : b.world.store.Effect time call w.store) :
      Step b c { b with runner := b.runner.remember c answer, world := w }

/-- A command for which there is no request changes nothing at all. -/
theorem next_of_error {e : LedgerError} (h : b.runner.request c = .error e) :
    b.next (.ok c) = (.error e, b) := by
  unfold next
  simp only [Runner.runAlone_apply, h]

theorem target?_of_ne (hop : c.op ≠ .release) :
    b.target? c = b.runner.accounts.lookup c.account := by
  unfold target?
  split
  · next h => exact absurd h hop
  · rfl

/-- No account that is there is changed by the request of a command but the one that the command is
    for. -/
theorem request_target {q : Request} (hrequest : b.runner.request c = .ok q) {call : Call}
    (hcall : q.FulfilledBy settings call) (habout : b.world.store.about call = some id) :
    b.target? c = some id := by
  cases hop : c.op with
  | «open» =>
      rcases (Runner.request_open_iff hop).mp hrequest with ⟨_, _, _, rfl⟩
      cases hcall
      cases habout
  | credit =>
      rcases (Runner.request_move_iff (.inl ⟨hop, rfl⟩)).mp hrequest with ⟨_, _, hid, _, rfl⟩
      cases hcall
      exact (target?_of_ne (by simp [hop])).trans (hid.trans habout)
  | debit =>
      rcases (Runner.request_move_iff (.inr ⟨hop, rfl⟩)).mp hrequest with ⟨_, _, hid, _, rfl⟩
      cases hcall
      exact (target?_of_ne (by simp [hop])).trans (hid.trans habout)
  | hold =>
      rcases (Runner.request_hold_iff hop).mp hrequest with
        ⟨_, _, _, _, hid, _, _, _, _, _, _, rfl⟩
      cases hcall
      exact (target?_of_ne (by simp [hop])).trans (hid.trans habout)
  | release =>
      rcases (Runner.request_release_iff hop).mp hrequest with ⟨name, k, hname, _, hk, rfl⟩
      cases hcall
      simp only [target?, hop, hold?, hname, Option.bind_eq_bind, Option.bind_some, hk]
      exact habout
  | freeze | unfreeze | close =>
      rcases Runner.request_status hrequest (by simp [hop]) with ⟨_, _, hid, rfl⟩
      cases hcall
      exact (target?_of_ne (by simp [hop])).trans (hid.trans habout)

theorem step_next (b : Batch) (c : Command) : b.Step c (b.next (.ok c)).2 := by
  cases hrequest : b.runner.request c with
  | error e =>
      rw [next_of_error hrequest]
      exact .kept rfl
  | ok q =>
      have hq := Runner.isMutating_of_request hrequest
      have houtcome := Request.outcome b.settings hq b.world
      unfold next
      simp only [Runner.runAlone_apply, hrequest]
      generalize (q.program b.settings).runAlone b.world = out at houtcome
      cases houtcome with
      | refused hstore => exact .kept hstore
      | changed hfulfilled hanswered heffect =>
          exact .changed hrequest hfulfilled hanswered heffect

theorem Step.lookup (h : b.Step c b') (hname : c.op = .open → name ≠ c.account) :
    b'.runner.accounts.lookup name = b.runner.accounts.lookup name := by
  cases h with
  | kept => rfl
  | changed => exact Runner.lookup_remember hname

/-- A command takes no row from the ledger. -/
theorem Step.lasting (h : b.Step c b') : b.world.store.Lasting b'.world.store := by
  cases h with
  | kept hstore =>
      rw [hstore]
      exact .refl _
  | changed _ _ _ heffect => exact heffect.lasting

/-- An alias is given to an account that is new, so no other alias leads to it. -/
theorem Known.opened (h : b.Known) (name : String) {r : Runner} {w : World} {a : Account}
    {accounts : Table Account.id}
    (hnames : ∀ n, r.accounts.lookup n
      = if name = n then some a.id else b.runner.accounts.lookup n)
    (ha : b.world.store.accounts.insert? a = some accounts)
    (haccounts : w.store.accounts = accounts) : Known { b with runner := r, world := w } where
  row {n id} hn := by
    simp only [hnames] at hn
    simp only [haccounts, Table.get?_insert? ha]
    split at hn
    · cases hn
      exact ⟨a, if_pos rfl⟩
    · rcases h.row hn with ⟨old, hold⟩
      split
      · exact ⟨a, rfl⟩
      · exact ⟨old, hold⟩
  distinct hm hn := by
    refine Sorted.Distinct.update (fun _ _ _ => h.distinct) hnames (fun n hn => ?_) _ _ _ hm hn
    rcases h.row hn with ⟨old, hold⟩
    cases (Table.get?_eq_none_of_insert? ha).symm.trans hold

/-- A command keeps what is known of the aliases. -/
theorem Known.step (h : b.Known) (hstep : b.Step c b') : b'.Known := by
  have hlasting := hstep.lasting
  cases hop : c.op with
  | «open» =>
      cases hstep with
      | kept _ => exact h.mono hlasting
      | changed hrequest hfulfilled hanswered heffect =>
          rcases (Runner.request_open_iff hop).mp hrequest with ⟨_, _, _, rfl⟩
          rcases Request.openAccount_writes hfulfilled hanswered heffect with
            ⟨a, _, _, rfl, _, _, _, _, _, _, ha, hw⟩
          refine h.opened c.account (fun n => ?_) ha (congrArg Store.accounts hw)
          simp only [Runner.remember, hop]
          exact Sorted.lookup_insert n
  | credit | debit | hold | release | freeze | unfreeze | close =>
      have hsame (n : String) : b'.runner.accounts.lookup n = b.runner.accounts.lookup n :=
        hstep.lookup fun heq => by simp [hop] at heq
      refine ⟨fun hid => ?_, fun hm hn => h.distinct (hsame _ ▸ hm) (hsame _ ▸ hn)⟩
      rcases h.row (hsame _ ▸ hid) with ⟨a, ha⟩
      rcases hlasting.account _ a ha with ⟨a', ha', _⟩
      exact ⟨a', ha'⟩

/-- A command that is for the account under an alias is for this alias. -/
theorem Known.isFor (h : b.Known) (hid : b.runner.accounts.lookup name = some id)
    (htarget : b.target? c = some id) : b.IsFor c name := by
  unfold target? at htarget
  unfold IsFor
  split at htarget
  · next hop =>
      rcases Option.map_eq_some_iff.mp htarget with ⟨g, hg, rfl⟩
      exact ⟨g, hg, hid⟩
  · next hop => exact h.distinct hid htarget

/-- An alias that was given keeps its meaning. -/
theorem Step.extends (h : b.Step c b') : b.runner.Extends b'.runner := by
  cases h with
  | kept => exact .refl _
  | changed hrequest => exact Runner.extends_remember hrequest _

/-- A command leaves the account under an alias and the holds on it alone when it is for another. -/
theorem Known.untouched (h : b.Known) (hstep : b.Step c b') (hname : ¬ b.IsFor c name) :
    b'.account? name = b.account? name ∧ b'.holdsOn name = b.holdsOn name := by
  have hlookup : b'.runner.accounts.lookup name = b.runner.accounts.lookup name :=
    hstep.lookup fun hop heq => hname (by unfold IsFor; rw [hop]; exact heq)
  unfold account? holdsOn
  rw [hlookup]
  cases hid : b.runner.accounts.lookup name with
  | none => exact ⟨rfl, rfl⟩
  | some id =>
      cases hstep with
      | kept hstore => simp only [hstore, and_self]
      | changed hrequest hfulfilled _ heffect =>
          have habout := fun heq =>
            hname (h.isFor hid (request_target hrequest hfulfilled heq))
          rcases h.row hid with ⟨a, ha⟩
          exact ⟨(heffect.account_of_ne ha habout).trans ha.symm, heffect.holdsOn_of_ne habout⟩

/-- The batches that there can be. A runner begins over any ledger, and while it carries out the
    records of its batch, others use the ledger too. -/
inductive Reached : Batch → Prop where
  | begun (settings : Settings) (customer : CustomerId) (w : World) :
      Reached ⟨settings, .new customer, w⟩
  | next {b : Batch} (h : Reached b) (record : Except LedgerError Command) :
      Reached (b.next record).2
  | drained {b : Batch} (h : Reached b) : Reached b.drain.2
  /-- Somebody else's request is served. -/
  | served {b : Batch} (h : Reached b) (q : Request) :
      Reached { b with world := ((q.program b.settings).runAlone b.world).2 }

-- By induction on how the batch was reached. Only a command gives an alias a meaning.
/-- In every batch that there can be an alias leads to a row of its own. -/
theorem Reached.known (h : Reached b) : b.Known := by
  induction h with
  | begun settings customer w => exact ⟨nofun, nofun⟩
  | @next b h record ih =>
      cases record with
      | error e => exact ih
      | ok c => exact ih.step (step_next b c)
  | drained h ih => exact ih.mono (.refl _)
  | @served b h q ih => exact ih.mono (Program.lasting_runAlone b.settings q b.world)

/-- What a command leaves alone, whatever comes of it. -/
structure Isolated (b : Batch) (c : Command) : Prop where
  /-- Under any alias that it is not for there is the same account. -/
  account : ∀ name, ¬ b.IsFor c name → (b.next (.ok c)).2.account? name = b.account? name
  /-- And the same holds are on it. -/
  holds : ∀ name, ¬ b.IsFor c name → (b.next (.ok c)).2.holdsOn name = b.holdsOn name
  /-- An alias that was given keeps its meaning. -/
  accountAlias : ∀ name id, b.runner.accounts.lookup name = some id →
    (b.next (.ok c)).2.runner.accounts.lookup name = some id
  holdAlias : ∀ name k, b.runner.holds.lookup name = some k →
    (b.next (.ok c)).2.runner.holds.lookup name = some k
  /-- Nothing happens when the account is not known that it names. -/
  unknown : c.op ≠ .open → c.op ≠ .release → b.runner.accounts.lookup c.account = none →
    b.next (.ok c) = (.error (.accountNotFound (.ofBatch c.account)), b)
  /-- And neither when the hold is not known that it refers to. -/
  dangling : c.op = .release → (∀ name ∈ c.reference, b.runner.holds.lookup name = none) →
    ∃ e, b.next (.ok c) = (.error e, b)

theorem request_unknown {r : Runner} (hopen : c.op ≠ .open) (hrelease : c.op ≠ .release)
    (hfree : r.accounts.lookup c.account = none) :
    r.request c = .error (.accountNotFound (.ofBatch c.account)) := by
  have hnone : r.account c.account = .error (.accountNotFound (.ofBatch c.account)) := by
    unfold Runner.account
    rw [hfree]
  unfold Runner.request
  cases hop : c.op with
  | «open» => exact absurd hop hopen
  | release => exact absurd hop hrelease
  | credit | debit | hold | freeze | unfreeze | close => simp only [hnone]; rfl

theorem request_dangling {r : Runner} (hop : c.op = .release)
    (hfree : ∀ name ∈ c.reference, r.holds.lookup name = none) : ∃ e, r.request c = .error e := by
  cases hrequest : r.request c with
  | error e => exact ⟨e, rfl⟩
  | ok q =>
      rcases (Runner.request_release_iff hop).mp hrequest with ⟨name, k, hname, _, hk, _⟩
      cases (hfree name hname).symm.trans hk

/-- The batch after some commands is one that there can be. -/
theorem Reached.afterAll (h : Reached b) (commands : List Command) :
    Reached (b.afterAll commands) := by
  induction commands generalizing b with
  | nil => exact h
  | cons c rest ih => exact ih (h.next _)

/-- There are two accounts, and a deposit is set aside on the first of them. -/
def deposit : Batch := (start .default .counted .epoch).afterAll
  [⟨.open, "rent", none, none, none⟩,
    ⟨.open, "savings", none, none, none⟩,
    ⟨.credit, "rent", some (.ofUnits 10 0), none, none⟩,
    ⟨.hold, "rent", some (.ofUnits 4 0), some "deposit", some "keys"⟩]

theorem reached_deposit : Reached deposit := (Reached.begun _ _ _).afterAll _

/-- The deposit is given back, and another account is named by mistake. -/
def mistaken (name : String) : Command := ⟨.release, name, none, some "deposit", none⟩

/-- A command touches no account but the one that it is for, in every batch that there can be. -/
theorem Reached.isolated (h : Reached b) (c : Command) : b.Isolated c where
  account _ hname := (h.known.untouched (step_next b c) hname).1
  holds _ hname := (h.known.untouched (step_next b c) hname).2
  accountAlias _ _ hid := (step_next b c).extends.account hid
  holdAlias _ _ hk := (step_next b c).extends.hold hk
  unknown hopen hrelease hfree := next_of_error (request_unknown hopen hrelease hfree)
  dangling hop hfree := (request_dangling hop hfree).imp fun _ => next_of_error

/-- The account that is named by mistake is left alone. -/
theorem deposit_isolated : Reached deposit ∧ ¬ deposit.IsFor (mistaken "savings") "savings" ∧
    (deposit.next (.ok (mistaken "savings"))).2.account? "savings"
      = deposit.account? "savings" := by
  have hfor : ¬ deposit.IsFor (mistaken "savings") "savings" := by
    rintro ⟨g, hg, hname⟩
    have hother : (deposit.hold? (mistaken "savings")).map Hold.account
        ≠ deposit.runner.accounts.lookup "savings" := by decide +kernel
    rw [hg, hname] at hother
    exact hother rfl
  exact ⟨reached_deposit, hfor, (reached_deposit.isolated _).account "savings" hfor⟩

/-- What a command would leave alone if the account that it names were always the one that it is
    for. -/
structure IsolatedByColumn (b : Batch) (c : Command) : Prop where
  account : ∀ name, name ≠ c.account → (b.next (.ok c)).2.account? name = b.account? name
  holds : ∀ name, name ≠ c.account → (b.next (.ok c)).2.holdsOn name = b.holdsOn name
  unknown : c.op ≠ .open → b.runner.accounts.lookup c.account = none →
    ∃ e, b.next (.ok c) = (.error e, b)

/-- The account that a release names is not the one that it is for: here the money goes back to the
    account of the deposit, although no account goes by the name that is given. -/
theorem not_isolatedByColumn :
    ¬ ∀ (b : Batch) (c : Command), Reached b → b.IsolatedByColumn c := by
  intro h
  have hsame := (h deposit (mistaken "nobody") reached_deposit).account "rent" (by decide)
  have hother : (deposit.next (.ok (mistaken "nobody"))).2.account? "rent"
      ≠ deposit.account? "rent" := by decide +kernel
  exact hother hsame

end Batch

end BankLedger
