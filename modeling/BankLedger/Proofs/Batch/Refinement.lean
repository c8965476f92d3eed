import BankLedger.Proofs.Batch.Agreement
import BankLedger.Service.Numbers

/-!
# Batches Refine the Plain Ledger

A batch over a new ledger does what its commands mean: it carries out just those that the plain
ledger accepts, and its report shows the plain ledger. The two sides are together when a batch
begins, every command keeps them together, and so they are together after every batch.

Three things are asked for, because the plain ledger knows nothing of them. Its balances are exact,
so those of a batch must be decimals. It finds a number for every account, so a batch must find one
among those that it may try. And its aliases never run out, so the identifiers that stand for them
must not come round again.

## Main definitions

* `Batch.afterAll`: The batch after some commands.
* `AliasLedger.ReportedBy`: The rows of a report are the accounts of the plain ledger.

## Theorems

* `represents_next`: A command keeps the two sides together.
* `represents_afterAll`: The two sides are together after all commands.
* `Represents.report`: The report shows the plain ledger.
* `refines_aliasLedger`: A batch refines the plain ledger.
-/

namespace BankLedger

namespace Batch

/-- The batch after some commands. -/
def afterAll (b : Batch) (commands : List Command) : Batch :=
  commands.foldl (fun b c => (b.next (.ok c)).2) b

variable {b : Batch} {l : AliasLedger} {c : Command}

theorem world_next :
    (b.next (.ok c)).2.world = ((b.runner.apply b.settings c).runAlone b.world).2 := by
  rw [next_ok]
  rfl

theorem settings_next : (b.next (.ok c)).2.settings = b.settings := by
  rw [next_ok]
  rfl

theorem made_le_afterAll (b : Batch) (commands : List Command) :
    b.world.made ≤ (b.afterAll commands).world.made := by
  induction commands generalizing b with
  | nil => exact Nat.le_refl _
  | cons c rest ih =>
      have hfirst := Program.made_le_runAlone (b.runner.apply b.settings c) b.world
      rw [← world_next] at hfirst
      exact hfirst.trans (ih _)

/-- A command keeps the two sides together, and succeeds on both or on none. -/
theorem represents_next (h : Represents b.runner b.world l)
    (hroom : (b.next (.ok c)).2.world.made < Uuid.serials) (hfits : ((l.apply c).getD l).Fits)
    (hdraws : c.op = .open → (l.apply c).isSome = true →
      b.world.DrawsUnused b.settings.numberAttempts) :
    (b.next (.ok c)).1.isOk = (l.apply c).isSome ∧
      Represents (b.next (.ok c)).2.runner (b.next (.ok c)).2.world ((l.apply c).getD l) := by
  rw [world_next] at hroom
  have hagrees := h.agrees_apply hroom (fun l' hl' => by rwa [hl'] at hfits)
    fun hop l' hl' => hdraws hop (by rw [hl']; rfl)
  unfold next
  simp only
  generalize (b.runner.apply b.settings c).runAlone b.world = out at hagrees
  generalize l.apply c = answer at hagrees
  cases hagrees with
  | rejected h => exact ⟨rfl, h⟩
  | accepted h => exact ⟨rfl, h⟩

-- By induction on the commands. What is asked of every command is asked of the first one with
-- nothing before it, and of the others with the first one before them.
/-- The two sides stay together over all commands, and agree on each of them. -/
theorem represents_afterAll {commands : List Command} (h : Represents b.runner b.world l)
    (hroom : (b.afterAll commands).world.made < Uuid.serials)
    (hfits : ∀ n, (l.afterAll (commands.take n)).Fits)
    (hdraws : ∀ n c, commands[n]? = some c → c.op = .open →
      ((l.afterAll (commands.take n)).apply c).isSome = true →
        (b.afterAll (commands.take n)).world.DrawsUnused b.settings.numberAttempts) :
    (∀ n c, commands[n]? = some c → ((b.afterAll (commands.take n)).next (.ok c)).1.isOk
      = ((l.afterAll (commands.take n)).apply c).isSome) ∧
      Represents (b.afterAll commands).runner (b.afterAll commands).world
        (l.afterAll commands) := by
  induction commands generalizing b l with
  | nil => exact ⟨fun _ _ hc => (Option.some_ne_none _ hc.symm).elim, h⟩
  | cons c rest ih =>
      have hfirst := represents_next h (Nat.lt_of_le_of_lt (made_le_afterAll _ rest) hroom)
        (hfits 1) (hdraws 0 c rfl)
      have hrest := ih hfirst.2 hroom (fun n => hfits (n + 1)) fun n d hd => by
        rw [settings_next]
        exact hdraws (n + 1) d hd
      refine ⟨fun n d hd => ?_, hrest.2⟩
      cases n with
      | zero =>
          cases hd
          exact hfirst.1
      | succ n => exact hrest.1 n d hd

/-- A batch that has not begun represents the plain ledger with nothing in it. -/
theorem represents_start (settings : Settings) (numbers : NumberSource) (clock : Instant) :
    Represents (start settings numbers clock).runner (start settings numbers clock).world
      .empty where
  accounts := ⟨fun _ => Or.inl ⟨rfl, rfl⟩, nofun⟩
  holds := ⟨fun _ => Or.inl ⟨rfl, rfl⟩, nofun⟩
  rising := .nil
  named := rfl
  minted := (World.minted_start settings.queueCapacity numbers clock).mono rfl (Nat.zero_le _)

end Batch

/-- The rows are the accounts of the plain ledger, in rising order of their aliases. -/
structure AliasLedger.ReportedBy (l : AliasLedger) (rows : List Report.Row) : Prop where
  rising : (rows.map Prod.fst).Pairwise (· < ·)
  complete : ∀ name, name ∈ rows.map Prod.fst ↔ (l.accounts.get? name).isSome = true
  shows : ∀ row ∈ rows, ∃ x, l.accounts.get? row.1 = some x ∧ row.2.Shows l.reserved x

/-- The report of a batch shows the plain ledger that it represents. -/
theorem Represents.report {b : Batch} {l : AliasLedger} (h : Represents b.runner b.world l) :
    ∃ rows, b.report = .ok rows ∧ l.ReportedBy rows := by
  have hlookup {name id} (hmem : (name, id) ∈ b.runner.accounts) :=
    h.accounts.row_of_lookup (Sorted.lookup_of_mem h.rising hmem)
  have hfound : ∀ entry ∈ b.runner.accounts,
      ∃ a, b.world.store.accounts.get? entry.2 = some a := fun _ hmem =>
    (hlookup hmem).imp fun _ ⟨_, ha, _⟩ => ha
  rcases Runner.runAlone_reportRows hfound with ⟨rows, v, hrun, hnames, hrows⟩
  refine ⟨rows, congrArg Prod.fst hrun, ?_, fun name => ?_, fun row hrow => ?_⟩
  · rw [hnames, List.pairwise_map]
    exact h.rising
  · rw [hnames, List.mem_map]
    constructor
    · rintro ⟨⟨_, id⟩, hmem, rfl⟩
      rcases hlookup hmem with ⟨_, x, _, hx, _⟩
      exact Option.isSome_iff_exists.mpr ⟨x, hx⟩
    · intro hknown
      rcases Option.isSome_iff_exists.mp hknown with ⟨x, hx⟩
      rcases h.accounts.lookup_of_known hx with ⟨id, hid⟩
      exact ⟨(name, id), Sorted.mem_of_lookup hid, rfl⟩
  · rcases hrows row hrow with ⟨id, hmem, ha⟩
    rcases hlookup hmem with ⟨a, x, ha', hx, hshows⟩
    cases ha.symm.trans ha'
    exact ⟨x, hx, hshows⟩

namespace Batch

/-- A batch over a new ledger carries out just those commands that the plain ledger accepts, and
    reports its accounts, as long as all sums are decimals, account numbers can be found, and
    identifiers do not come round again. -/
theorem refines_aliasLedger (settings : Settings) (numbers : NumberSource) (clock : Instant)
    (commands : List Command)
    (hfits : ∀ n, (AliasLedger.empty.afterAll (commands.take n)).Fits)
    (hdraws : ∀ n c, commands[n]? = some c → c.op = .open →
      ((AliasLedger.empty.afterAll (commands.take n)).apply c).isSome = true →
        ((start settings numbers clock).afterAll (commands.take n)).world.DrawsUnused
          settings.numberAttempts)
    (hroom : ((start settings numbers clock).afterAll commands).world.made < Uuid.serials) :
    (∀ n c, commands[n]? = some c →
      (((start settings numbers clock).afterAll (commands.take n)).next (.ok c)).1.isOk
        = ((AliasLedger.empty.afterAll (commands.take n)).apply c).isSome) ∧
      ∃ rows, ((start settings numbers clock).afterAll commands).report = .ok rows ∧
        (AliasLedger.empty.afterAll commands).ReportedBy rows := by
  rcases represents_afterAll (represents_start settings numbers clock) hroom hfits hdraws with
    ⟨hagree, hend⟩
  exact ⟨hagree, hend.report⟩

/-- Rent is paid from an account while a deposit is set aside, and then the account is frozen. -/
def rentDay : List Command :=
  [⟨.open, "rent", none, none, none⟩,
    ⟨.credit, "rent", some (.ofUnits 1005 1), none, none⟩,
    ⟨.hold, "rent", some (.ofUnits 40 0), some "deposit", some "keys"⟩,
    ⟨.debit, "rent", some (.ofUnits 100 0), none, none⟩,
    ⟨.hold, "rent", some (.ofUnits 1 0), some "fee", some "late"⟩,
    ⟨.release, "", none, some "deposit", none⟩,
    ⟨.freeze, "rent", none, none, none⟩,
    ⟨.credit, "rent", some (.ofUnits 1 0), none, none⟩]

/-- The balances of the day, and what is available. -/
def rentSums : List Decimal :=
  [.zero, .ofUnits 1005 1, .ofUnits 605 1, .ofUnits 5 1, .ofUnits (-395) 1]

/-- The second hold comes when nothing is left, and the last credit when the account is frozen. -/
theorem rentDay_refines :
    (∀ n c, rentDay[n]? = some c →
      (((start .default .counted .epoch).afterAll (rentDay.take n)).next (.ok c)).1.isOk
        = !decide (n = 4 ∨ n = 7)) ∧
      ∃ rows, ((start .default .counted .epoch).afterAll rentDay).report = .ok rows ∧
        (AliasLedger.empty.afterAll rentDay).ReportedBy rows := by
  have hsums : ∀ n < 9, ∀ a ∈ (AliasLedger.empty.afterAll (rentDay.take n)).accounts.rows,
      (∃ d ∈ rentSums, d.toRat = a.balance) ∧ ∃ d ∈ rentSums,
        d.toRat = a.balance - (AliasLedger.empty.afterAll (rentDay.take n)).reserved a.name := by
    decide +kernel
  have haccepted : ∀ n < 8, ∀ c ∈ rentDay[n]?, ((AliasLedger.empty.afterAll (rentDay.take n)).apply
      c).isSome = !decide (n = 4 ∨ n = 7) := by
    decide +kernel
  have hopens : ∀ n < 8, ∀ c ∈ rentDay[n]?, c.op = .open → n = 0 := by decide
  have hlength {n : Nat} {c : Command} (hc : rentDay[n]? = some c) : n < 8 :=
    (List.getElem?_eq_some_iff.mp hc).1
  have hfits (n : Nat) : (AliasLedger.empty.afterAll (rentDay.take n)).Fits := by
    rw [List.take_eq_take_min]
    refine AliasLedger.fits_of_rows fun a ha => ?_
    rcases hsums _ (Nat.lt_succ_of_le (Nat.min_le_right _ _)) a ha with
      ⟨⟨d, _, hd⟩, d', _, hd'⟩
    exact ⟨⟨d, hd⟩, d', hd'⟩
  rcases refines_aliasLedger .default .counted .epoch rentDay hfits (fun n c hc hop _ => by
      cases hopens n (hlength hc) c hc hop
      exact ⟨0, by decide, nofun, _, rfl, rfl⟩) (by decide +kernel) with ⟨hagree, hrows⟩
  refine ⟨fun n c hc => ?_, hrows⟩
  rw [hagree n c hc]
  exact haccepted n (hlength hc) c hc

end Batch

end BankLedger
