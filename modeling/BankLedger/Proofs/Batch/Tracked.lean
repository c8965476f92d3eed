import BankLedger.Proofs.Batch.Untouched
import BankLedger.Proofs.Service.Amid
import Mathlib.Logic.Relation

/-!
# What the Aliases Stand For

A runner binds an alias only after the ledger has answered. Between the row that is written and the
alias that is bound there are steps of the program, and others come in between: their calls reach
the store before the change of the command, behind it, and while it is still on its way. So it has
to be shown that the aliases and the rows never part. A row whose alias was lost could not be
reached by any later command, and an alias without its row would lead astray.

The aliases of a runner track the rows of its customer: every alias of an account stands for an
account of the customer, no two for the same one, and every account of the customer has an alias.
The last of these is where others could do harm, by opening an account for the same customer. It is
the only thing that they must not do. For the holds the tie is in the row: a hold carries the alias
for which it was set aside, so it can only stand under this one.

Where a command is refused nothing was written, and nothing is bound. Where it succeeds its change
was made once, and what was answered is what was written.

## Main definitions

* `Call.OpensFor`, `Request.OpensFor`: To open an account for a customer.
* `Runner.Tracks`: What the aliases of a runner have to do with the rows of its customer.
* `Runner.Outcome`: What comes of a command amid others.
* `Batch.Turn`, `Batch.Course`: The ways in which a batch may go on amid others.
* `Batch.KeepsTrack`: The aliases stand for the rows of the customer, now and later.

## Theorems

* `Runner.outcome`: A command makes its change or none, whoever else is there.
* `Tracks.effect`: What others do breaks no tie.
* `Tracks.opened`, `Tracks.held`: An alias is bound to a row that is new.
* `Tracks.outcome`: A command keeps the aliases and the rows together.
* `turn_run`, `turn_served`: Commands amid others are turns, and so are the requests of others.
* `Course.keepsTrack`: Whatever the batch and the others do, the aliases stand for the rows.
-/

namespace BankLedger

/-- The call opens an account for the customer. -/
def Call.OpensFor (customer : CustomerId) (c : Call) : Prop :=
  ∃ a, c = .createAccount a ∧ a.customer = customer

/-- The request is to open an account for the customer. -/
def Request.OpensFor (customer : CustomerId) (q : Request) : Prop :=
  ∃ request, q = .openAccount request ∧ request.customer = customer

/-- An account is opened for the customer that was asked for. -/
theorem Request.FulfilledBy.opensFor {settings : Settings} {customer : CustomerId} {q : Request}
    {c : Call} (h : q.FulfilledBy settings c) (hc : c.OpensFor customer) : q.OpensFor customer := by
  rcases hc with ⟨a, rfl, hcustomer⟩
  cases h with
  | opened _ _ => exact ⟨_, rfl, hcustomer⟩

namespace Runner

variable {settings : Settings} {others : Call → Prop} {r : Runner} {c : Command} {s t : Store}
  {now : Instant} {name : String}

/-- What comes of a command amid others: the runner that knows its answer, or an error, and the
    store. -/
inductive Outcome (settings : Settings) (others : Call → Prop) (r : Runner) (c : Command)
    (s : Store) : Except LedgerError Runner → Store → Prop where
  /-- The command fails, and what is done is done by others. -/
  | refused {e : LedgerError} {t : Store} (h : s.Shared others [] t) :
      Outcome settings others r c s (.error e) t
  /-- The change of its request is made, and the answer is remembered. -/
  | changed {q : Request} {answer : Answer} {time : Instant} {call : Call} {reply : call.Reply}
      {u v t : Store} (hrequest : r.request c = .ok q) (hfulfilled : q.FulfilledBy settings call)
      (hanswered : call.Answered reply answer) (hbefore : s.Shared others [] u)
      (heffect : u.Effect time call v) (hafter : v.Shared others [] t) :
      Outcome settings others r c s (.ok (r.remember c answer)) t

-- A command is known by its request. What the request did is known from its deeds, and what became
-- of the store amid others from these.
/-- A command makes its change or none, whoever else is there. -/
theorem outcome {result : Except LedgerError Runner}
    (h : (r.apply settings c).EndsAmid others s result t) :
    r.Outcome settings others c s result t := by
  rw [apply_eq] at h
  cases hrequest : r.request c with
  | error e =>
      rw [hrequest] at h
      have hkeeps : (Program.done (.error e) : Program Runner).Keeps (fun _ _ => True)
          (fun deeds x => deeds = [] ∧ x = .error e) [] := ⟨rfl, rfl⟩
      rcases h.exists_deeds hkeeps with ⟨more, ⟨hnothing, rfl⟩, hshared⟩
      cases hnothing
      exact .refused hshared
  | ok q =>
      rw [hrequest, ofExcept_bind] at h
      have hkeeps : (q.program settings >>= fun answer => pure (r.remember c answer)).Keeps
          (q.MayBusy settings)
          (fun deeds x => ∃ answer, q.MayEnd settings deeds answer ∧ x = answer.map (r.remember c))
          [] :=
        Program.keeps_map ((q.keeps settings).imp fun _ answer hends => ⟨answer, hends, rfl⟩)
      rcases h.exists_deeds hkeeps with ⟨more, ⟨answer, hends, rfl⟩, hshared⟩
      rw [List.nil_append] at hends
      cases answer with
      | error e =>
          rw [(hends.refused e rfl).1] at hshared
          exact .refused hshared
      | ok answer =>
          rcases (hends.changed answer rfl (isMutating_of_request hrequest)).1 with
            ⟨time, call, reply, honly, hfulfilled, hanswered⟩
          rw [honly.changes_eq] at hshared
          rcases hshared.single with ⟨u, v, hbefore, heffect, hafter⟩
          exact .changed hrequest hfulfilled hanswered hbefore heffect hafter

/-- What the aliases of a runner have to do with the rows of its customer. -/
structure Tracks (r : Runner) (s : Store) : Prop where
  /-- An alias of an account stands for an account of the customer. -/
  account : ∀ {name id}, r.accounts.lookup name = some id →
    ∃ a, s.accounts.get? id = some a ∧ a.customer = r.customer
  distinct : Sorted.Distinct r.accounts
  /-- Every account of the customer has an alias. -/
  owned : ∀ {id a}, s.accounts.get? id = some a → a.customer = r.customer →
    ∃ name, r.accounts.lookup name = some id
  /-- An alias of a hold stands for a hold that carries it, on an account that has an alias. -/
  hold : ∀ {name k}, r.holds.lookup name = some k → ∃ g, s.holds.get? k = some g ∧
    g.reference = some name ∧ ∃ account, r.accounts.lookup account = some g.account

/-- A customer without accounts needs no aliases. -/
theorem tracks_new {customer : CustomerId}
    (h : ∀ id a, s.accounts.get? id = some a → a.customer ≠ customer) :
    (Runner.new customer).Tracks s where
  account := nofun
  distinct := nofun
  owned ha hcustomer := absurd hcustomer (h _ _ ha)
  hold := nofun

/-- No two aliases of holds stand for the same one, because it carries them both. -/
theorem Tracks.holds_distinct (h : r.Tracks s) : Sorted.Distinct r.holds := by
  intro m n k hm hn
  rcases h.hold hm with ⟨g, hg, hreference, _⟩
  rcases h.hold hn with ⟨g', hg', hreference', _⟩
  cases hg.symm.trans hg'
  exact Option.some.inj (hreference.symm.trans hreference')

theorem Tracks.account_lasting (h : r.Tracks s) (hlasting : s.Lasting t) {id : AccountId}
    (hid : r.accounts.lookup name = some id) :
    ∃ a, t.accounts.get? id = some a ∧ a.customer = r.customer := by
  rcases h.account hid with ⟨a, ha, hcustomer⟩
  rcases hlasting.account id a ha with ⟨b, hb, hkept⟩
  exact ⟨b, hb, hkept.customer_eq.trans hcustomer⟩

theorem Tracks.hold_lasting (h : r.Tracks s) (hlasting : s.Lasting t) {k : HoldId}
    (hk : r.holds.lookup name = some k) : ∃ g, t.holds.get? k = some g ∧
      g.reference = some name ∧ ∃ account, r.accounts.lookup account = some g.account := by
  rcases h.hold hk with ⟨g, hg, hreference, account, haccount⟩
  rcases hlasting.hold k g hg with ⟨f, hf, hkept⟩
  exact ⟨f, hf, hkept.reference_eq.trans hreference, account, hkept.account_eq ▸ haccount⟩

/-- No call breaks the ties but one that opens an account for the customer. -/
theorem Tracks.effect {call : Call} (h : r.Tracks s) (heffect : s.Effect now call t)
    (hcall : ¬ call.OpensFor r.customer) : r.Tracks t where
  account := h.account_lasting heffect.lasting
  distinct := h.distinct
  owned {id b} hb hcustomer := by
    rcases heffect.new_or_kept hb with rfl | ⟨a, ha, hkept⟩
    · exact absurd ⟨b, rfl, hcustomer⟩ hcall
    · exact h.owned ha (hkept.customer_eq.symm.trans hcustomer)
  hold := h.hold_lasting heffect.lasting

/-- Others do not open accounts for the customer, so they break no tie. -/
theorem Tracks.shared (h : r.Tracks s)
    (hshared : s.Shared (fun call => ¬ call.OpensFor r.customer) [] t) : r.Tracks t := by
  refine hshared.preserves (fun u time call hcall hu => ?_) h
  rcases u.after_cases time call with hsame | ⟨_, heffect⟩
  · exact hsame.symm ▸ hu
  · exact hu.effect heffect hcall

-- The alias has to be free: one that was bound before would leave its account without an alias.
/-- A free alias is bound to an account of the customer that is new. -/
theorem Tracks.opened (h : r.Tracks s) (hfree : r.accounts.lookup name = none) {a : Account}
    (hcustomer : a.customer = r.customer) (heffect : s.Effect now (.createAccount a) t) :
    Tracks { r with accounts := Sorted.insert name a.id r.accounts } t where
  account hid := by
    rw [Sorted.lookup_insert] at hid
    split at hid
    · cases hid
      exact ⟨a, heffect.opened_found.2, hcustomer⟩
    · exact h.account_lasting heffect.lasting hid
  distinct := by
    refine h.distinct.update (fun n => Sorted.lookup_insert n) fun n hn => ?_
    rcases h.account hn with ⟨old, hold, _⟩
    cases heffect.opened_found.1.symm.trans hold
  owned {id b} hb hb' := by
    rcases heffect.new_or_kept hb with hnew | ⟨old, hold, hkept⟩
    · cases hnew
      refine ⟨name, (Sorted.lookup_insert name).trans ((if_pos rfl).trans ?_)⟩
      exact congrArg some (Table.key_of_get? hb)
    · rcases h.owned hold (hkept.customer_eq.symm.trans hb') with ⟨n, hn⟩
      exact ⟨n, Sorted.lookup_insert_of_free hfree hn⟩
  hold hk := by
    rcases h.hold_lasting heffect.lasting hk with ⟨g, hg, hreference, account, haccount⟩
    exact ⟨g, hg, hreference, account, Sorted.lookup_insert_of_free hfree haccount⟩

/-- An alias is bound to a hold that carries it, on an account that has an alias. -/
theorem Tracks.held (h : r.Tracks s) {g : Hold} (hreference : g.reference = some name)
    {account : String} (haccount : r.accounts.lookup account = some g.account)
    (heffect : s.Effect now (.createHold g) t) :
    Tracks { r with holds := Sorted.insert name g.id r.holds } t where
  account := h.account_lasting heffect.lasting
  distinct := h.distinct
  owned := (h.effect heffect fun ⟨_, hopens, _⟩ => by cases hopens).owned
  hold hk := by
    rw [Sorted.lookup_insert] at hk
    split at hk
    · next hname =>
        cases hk
        exact ⟨g, heffect.held_found, hname ▸ hreference, account, haccount⟩
    · exact h.hold_lasting heffect.lasting hk

/-- What a command has written is what its alias is bound to. -/
theorem Tracks.remember {q : Request} {answer : Answer} {call : Call} {reply : call.Reply}
    (h : r.Tracks s) (hrequest : r.request c = .ok q) (hfulfilled : q.FulfilledBy settings call)
    (hanswered : call.Answered reply answer) (heffect : s.Effect now call t) :
    (r.remember c answer).Tracks t := by
  have hquiet (hremember : r.remember c answer = r) (hq : ∀ request, q ≠ .openAccount request) :
      (r.remember c answer).Tracks t := by
    rw [hremember]
    refine h.effect heffect fun hopens => ?_
    rcases hfulfilled.opensFor hopens with ⟨request, rfl, _⟩
    exact hq request rfl
  cases hop : c.op with
  | «open» =>
      rcases (request_open_iff hop).mp hrequest with ⟨hfree, _, _, rfl⟩
      rcases Request.openAccount_writes hfulfilled hanswered heffect with
        ⟨a, _, _, rfl, hcustomer, _, _, _, _, rfl, _, _⟩
      simp only [Runner.remember, hop]
      exact h.opened hfree hcustomer heffect
  | hold =>
      rcases (request_hold_iff hop).mp hrequest with
        ⟨id, _, name, _, hid, _, hname, _, _, _, _, rfl⟩
      rcases Request.createHold_writes hfulfilled hanswered heffect with
        ⟨g, _, _, _, rfl, hon, hreference, _, _, rfl, _⟩
      simp only [Runner.remember, hop, hname, Option.getD_some]
      exact h.held hreference (hid.trans (congrArg some hon.symm)) heffect
  | credit =>
      rcases (request_move_iff (.inl ⟨hop, rfl⟩)).mp hrequest with ⟨_, _, _, _, rfl⟩
      exact hquiet (by unfold Runner.remember; rw [hop]) fun _ heq => by cases heq
  | debit =>
      rcases (request_move_iff (.inr ⟨hop, rfl⟩)).mp hrequest with ⟨_, _, _, _, rfl⟩
      exact hquiet (by unfold Runner.remember; rw [hop]) fun _ heq => by cases heq
  | release =>
      rcases (request_release_iff hop).mp hrequest with ⟨_, _, _, _, _, rfl⟩
      exact hquiet (by unfold Runner.remember; rw [hop]) fun _ heq => by cases heq
  | freeze | unfreeze | close =>
      rcases request_status hrequest (by simp [hop]) with ⟨_, _, _, rfl⟩
      exact hquiet (by unfold Runner.remember; rw [hop]) fun _ heq => by cases heq

/-- A command keeps the aliases and the rows together, and every alias that it finds. -/
theorem Tracks.outcome {result : Except LedgerError Runner} (h : r.Tracks s)
    (hout : r.Outcome settings (fun call => ¬ call.OpensFor r.customer) c s result t) :
    (result.toOption.getD r).Tracks t ∧ r.Extends (result.toOption.getD r) := by
  cases hout with
  | refused hshared => exact ⟨h.shared hshared, .refl r⟩
  | changed hrequest hfulfilled hanswered hbefore heffect hafter =>
      have hbound := (h.shared hbefore).remember hrequest hfulfilled hanswered heffect
      refine ⟨hbound.shared ?_, extends_remember hrequest _⟩
      rw [customer_remember]
      exact hafter

end Runner

namespace Batch

variable {settings : Settings} {customer : CustomerId} {b b' : Batch} {w : World}

/-- How a batch may go on amid others, who do not open accounts for its customer. -/
inductive Turn : Batch → Batch → Prop where
  /-- A command is carried out. When it fails the runner knows what it knew before. -/
  | command {b : Batch} {c : Command} {result : Except LedgerError Runner} {w : World}
      (h : (b.runner.apply b.settings c).EndsAmid (fun call => ¬ call.OpensFor b.runner.customer)
        b.world.store result w.store) :
      Turn b { b with runner := result.toOption.getD b.runner, world := w }
  /-- Between two commands others go on. -/
  | others {b : Batch} {w : World}
      (h : b.world.store.Shared (fun call => ¬ call.OpensFor b.runner.customer) [] w.store) :
      Turn b { b with world := w }

/-- A batch that goes on amid others for as long as it likes. -/
def Course : Batch → Batch → Prop := Relation.ReflTransGen Turn

/-- A command is one of the turns in every surrounding in which others open no accounts for the
    customer, not even between two of its calls. -/
theorem turn_run {around : Program.Surrounding} (c : Command)
    (h : ∀ made d, ∀ call ∈ (around made d).before, ¬ call.OpensFor b.runner.customer) :
    b.Turn { b with
      runner := ((b.runner.apply b.settings c).run around [] b.world).1.toOption.getD b.runner
      world := ((b.runner.apply b.settings c).run around [] b.world).2 } :=
  .command (Program.endsAmid_run h _ [] b.world)

/-- A command that runs alone is one of them. -/
theorem turn_next (b : Batch) (c : Command) : b.Turn (b.next (.ok c)).2 := by
  rw [next_ok]
  exact turn_run c fun _ _ _ hcall => absurd hcall List.not_mem_nil

theorem course_afterAll (b : Batch) (commands : List Command) : b.Course (b.afterAll commands) := by
  induction commands generalizing b with
  | nil => exact .refl
  | cons c rest ih => exact .head (turn_next b c) (ih _)

/-- To serve somebody else's request is one of the turns. -/
theorem turn_served {q : Request} (hq : ¬ q.OpensFor b.runner.customer) :
    b.Turn { b with world := ((q.program b.settings).runAlone b.world).2 } := by
  rcases Program.exists_deeds_runAlone (q.keeps b.settings) b.world with ⟨more, hends, hchanged⟩
  rw [List.nil_append] at hends
  refine .others ?_
  rw [hchanged.eq_afterAll]
  exact Store.shared_afterAll _ fun call hcall hopens =>
    hq ((hends.fulfilled call hcall).opensFor hopens)

/-- A turn keeps the aliases and the rows together, and every alias that there is. -/
theorem Turn.tracks (h : b.Turn b') (htracks : b.runner.Tracks b.world.store) :
    b'.runner.Tracks b'.world.store ∧ b.runner.Extends b'.runner := by
  cases h with
  | command hends => exact htracks.outcome (Runner.outcome hends)
  | others hshared => exact ⟨htracks.shared hshared, .refl _⟩

-- By induction on the course, from its beginning: the aliases track the rows after every turn.
/-- However a batch goes on, the aliases and the rows stay together, and no alias is given up. -/
theorem Course.tracks (h : b.Course b') (htracks : b.runner.Tracks b.world.store) :
    b'.runner.Tracks b'.world.store ∧ b.runner.Extends b'.runner := by
  induction h with
  | refl => exact ⟨htracks, .refl _⟩
  | tail _ hturn ih =>
      rcases hturn.tracks ih.1 with ⟨hlater, hextends⟩
      exact ⟨hlater, ih.2.trans hextends⟩

/-- The aliases stand for the rows of the customer, now and later. -/
structure KeepsTrack (b : Batch) (customer : CustomerId) : Prop where
  customer_eq : b.runner.customer = customer
  /-- An alias of an account stands for an account of the customer that is there. -/
  account : ∀ name id, b.runner.accounts.lookup name = some id →
    ∃ a, b.world.store.accounts.get? id = some a ∧ a.customer = customer
  accountsDistinct : Sorted.Distinct b.runner.accounts
  /-- Every account of the customer has an alias. -/
  owned : ∀ id a, b.world.store.accounts.get? id = some a → a.customer = customer →
    ∃ name, b.runner.accounts.lookup name = some id
  /-- An alias of a hold stands for a hold that carries it, on an account that has an alias. -/
  hold : ∀ name k, b.runner.holds.lookup name = some k → ∃ g, b.world.store.holds.get? k = some g ∧
    g.reference = some name ∧ ∃ account, b.runner.accounts.lookup account = some g.account
  holdsDistinct : Sorted.Distinct b.runner.holds
  /-- However the batch goes on, every alias of an account keeps its meaning. -/
  accountAlias : ∀ b', b.Course b' → ∀ name id, b.runner.accounts.lookup name = some id →
    b'.runner.accounts.lookup name = some id
  /-- And so does every alias of a hold. -/
  holdAlias : ∀ b', b.Course b' → ∀ name k, b.runner.holds.lookup name = some k →
    b'.runner.holds.lookup name = some k

/-- Whatever the batch and the others do, the aliases stand for the rows of the customer. -/
theorem Course.keepsTrack
    (hfresh : ∀ id a, w.store.accounts.get? id = some a → a.customer ≠ customer)
    (h : Course ⟨settings, .new customer, w⟩ b) : b.KeepsTrack customer := by
  rcases h.tracks (Runner.tracks_new hfresh) with ⟨htracks, hextends⟩
  have hcustomer : b.runner.customer = customer := hextends.customer_eq
  exact {
    customer_eq := hcustomer
    account := fun _ _ hid => hcustomer ▸ htracks.account hid
    accountsDistinct := htracks.distinct
    owned := fun _ _ ha hc => htracks.owned ha (hc.trans hcustomer.symm)
    hold := fun _ _ hk => htracks.hold hk
    holdsDistinct := htracks.holds_distinct
    accountAlias := fun _ hcourse _ _ hid => (hcourse.tracks htracks).2.account hid
    holdAlias := fun _ hcourse _ _ hk => (hcourse.tracks htracks).2.hold hk }

/-- A batch begins with no accounts at all. -/
theorem customer_ne_of_start (settings : Settings) (numbers : NumberSource) (clock : Instant)
    (id : AccountId) (a : Account)
    (ha : (start settings numbers clock).world.store.accounts.get? id = some a) :
    a.customer ≠ (start settings numbers clock).runner.customer := by
  have hnone : (start settings numbers clock).world.store.accounts.get? id = none := rfl
  cases hnone.symm.trans ha

/-- While a deposit is set aside, a stranger opens an account. Then the deposit is given back, and
    its account is emptied and closed. -/
def movedOut : Batch :=
  let q : Request := .openAccount ⟨default, .checking, none, none⟩
  { deposit with world := ((q.program deposit.settings).runAlone deposit.world).2 }.afterAll
    [⟨.release, "rent", none, some "deposit", none⟩,
      ⟨.debit, "rent", some (.ofUnits 10 0), none, none⟩,
      ⟨.close, "rent", none, none, none⟩]

theorem course_movedOut : (start .default .counted .epoch).Course movedOut := by
  have hstranger : ¬ (Request.openAccount ⟨default, .checking, none, none⟩).OpensFor
      deposit.runner.customer := by
    rintro ⟨_, ⟨⟩, heq⟩
    revert heq
    decide +kernel
  exact ((course_afterAll _ _).tail (turn_served hstranger)).trans (course_afterAll _ _)

/-- The alias of an account that is closed and the one of a hold that is given back still stand for
    them, and the account of the stranger has none. -/
theorem movedOut_keepsTrack :
    (∀ id a, (start .default .counted .epoch).world.store.accounts.get? id = some a →
      a.customer ≠ (start .default .counted .epoch).runner.customer) ∧
    (start .default .counted .epoch).Course movedOut ∧
    movedOut.KeepsTrack (start .default .counted .epoch).runner.customer ∧
    movedOut.world.store.accounts.rows.map Account.status = [.closed, .active, .active] ∧
    movedOut.runner.accounts.map Prod.fst = ["rent", "savings"] ∧
    movedOut.runner.holds.map Prod.fst = ["deposit"] := by
  have hfresh := customer_ne_of_start .default .counted .epoch
  refine ⟨hfresh, course_movedOut, Course.keepsTrack hfresh course_movedOut, ?_, ?_, ?_⟩
  · decide +kernel
  · decide +kernel
  · decide +kernel

end Batch

end BankLedger
