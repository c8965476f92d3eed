import BankLedger.Proofs.Batch.AliasLedger
import BankLedger.Proofs.Batch.Aliases
import BankLedger.Proofs.Service.Minted

/-!
# How a Batch Represents a Plain Ledger

A runner and a store together represent a plain ledger when every alias leads to a row that says
the same: from the alias by the runner to an identifier, and from there by the store to the row. An
alias that is unknown to one of them is unknown to the other, and no two aliases lead to one row,
because otherwise a command for one alias would show at another.

`Linked` says this for accounts and holds alike. `Linked.update` is what all changes of rows come
down to, whether the alias is new or known.

## Main definitions

* `Linked`: Aliases lead to rows that say the same.
* `Account.Shows`, `Hold.Shows`: A row says what the plain ledger says.
* `Represents`: A runner and a store represent a plain ledger.

## Theorems

* `Linked.update`: One alias leads to another row.
* `Represents.openAccount`, `Represents.put`, `Represents.hold`, `Represents.release`: Each change
  of a row keeps the two sides together.
-/

namespace BankLedger

/-- Aliases lead to rows that say the same as the known ones. -/
structure Linked {ι α β : Type} (names : List (String × ι)) (found : ι → Option α)
    (known : String → Option β) (alike : α → β → Prop) : Prop where
  /-- An alias is unknown, or it leads to a row. -/
  cases : ∀ name, (names.lookup name = none ∧ known name = none) ∨ ∃ id a x,
    names.lookup name = some id ∧ found id = some a ∧ known name = some x ∧ alike a x
  /-- No two aliases lead to one row. -/
  distinct : ∀ {m n id}, names.lookup m = some id → names.lookup n = some id → m = n

/-- What is known of a name need not be put there once more. -/
theorem eq_ite_of_eq_some {γ : Type} {known : String → Option γ} {name : String} {v : γ}
    (h : known name = some v) (n : String) : known n = if name = n then some v else known n := by
  split
  · next heq => exact heq ▸ h
  · rfl

namespace Linked

variable {ι α β : Type} {names names' : List (String × ι)}
  {found found' : ι → Option α} {known known' : String → Option β} {alike alike' : α → β → Prop}
  {name : String} {i : ι}

/-- An alias that stands for something leads to a row. -/
theorem row_of_lookup (h : Linked names found known alike) (hi : names.lookup name = some i) :
    ∃ a x, found i = some a ∧ known name = some x ∧ alike a x := by
  rcases h.cases name with ⟨hnone, _⟩ | ⟨k, a, x, hk, ha, hx, hax⟩
  · rw [hi] at hnone
    cases hnone
  · rw [hi] at hk
    cases hk
    exact ⟨a, x, ha, hx, hax⟩

/-- An alias that is known stands for something. -/
theorem lookup_of_known (h : Linked names found known alike) {x : β} (hx : known name = some x) :
    ∃ i, names.lookup name = some i := by
  rcases h.cases name with ⟨_, hnone⟩ | ⟨k, a, y, hk, _, _, _⟩
  · rw [hx] at hnone
    cases hnone
  · exact ⟨k, hk⟩

/-- An alias is free on both sides or on none. -/
theorem lookup_eq_none_iff (h : Linked names found known alike) :
    names.lookup name = none ↔ known name = none := by
  rcases h.cases name with ⟨hnames, hknown⟩ | ⟨k, a, x, hk, _, hx, _⟩
  · simp only [hnames, hknown]
  · simp only [hk, hx, reduceCtorEq]

theorem mono (h : Linked names found known alike)
    (halike : ∀ n a x, known n = some x → alike a x → alike' a x) :
    Linked names found known alike' where
  cases n := (h.cases n).imp_right fun ⟨k, a, x, hk, ha, hx, hax⟩ =>
    ⟨k, a, x, hk, ha, hx, halike n a x hx hax⟩
  distinct := h.distinct

-- Any other alias leads to its old row, because the row that is written was no row of theirs: it is
-- new, or it belongs to the alias itself.
/-- One alias leads to another row than before, and every other one to the same row. -/
theorem update [DecidableEq ι] (h : Linked names found known alike) {a : α} {x : β}
    (hnames : ∀ n, names'.lookup n = if name = n then some i else names.lookup n)
    (hfound : ∀ k, found' k = if i = k then some a else found k)
    (hknown : ∀ n, known' n = if name = n then some x else known n) (hax : alike' a x)
    (hi : ∀ n, names.lookup n = some i → n = name)
    (hother : ∀ n, n ≠ name → ∀ b y, known n = some y → alike b y → alike' b y) :
    Linked names' found' known' alike' where
  cases n := by
    rw [hnames, hknown]
    by_cases hn : name = n
    · rw [if_pos hn, if_pos hn]
      exact Or.inr ⟨i, a, x, rfl, (hfound i).trans (if_pos rfl), rfl, hax⟩
    · rw [if_neg hn, if_neg hn]
      refine (h.cases n).imp_right fun ⟨k, b, y, hk, hb, hy, hby⟩ => ?_
      have hne : i ≠ k := fun heq => hn (hi n (heq ▸ hk)).symm
      exact ⟨k, b, y, hk, (hfound k).trans ((if_neg hne).trans hb), hy,
        hother n (Ne.symm hn) b y hy hby⟩
  distinct hm hn := Sorted.Distinct.update (fun _ _ _ => h.distinct) hnames hi _ _ _ hm hn

end Linked

/-- The row of an account says what the plain ledger says, given what the holds set aside. -/
structure Account.Shows (reserved : String → ℚ) (a : Account) (x : AliasAccount) : Prop where
  kind_eq : a.kind = x.kind
  status_eq : a.status = x.status
  balance_eq : a.balance.toRat = x.balance
  /-- What is available is what the holds leave. -/
  available_eq : a.available.toRat = x.balance - reserved x.name
  balance_nonneg : 0 ≤ x.balance

/-- The row of a hold says what the plain ledger says, given what the aliases of accounts stand
    for. -/
structure Hold.Shows (names : List (String × AccountId)) (g : Hold) (h : AliasHold) : Prop where
  account_eq : names.lookup h.account = some g.account
  amount_eq : g.amount.value.toRat = h.amount
  isActive_eq : g.isActive = !h.released

/-- A runner and the store of its world represent a plain ledger. -/
structure Represents (r : Runner) (w : World) (l : AliasLedger) : Prop where
  accounts : Linked r.accounts w.store.accounts.get? l.accounts.get? (Account.Shows l.reserved)
  holds : Linked r.holds w.store.holds.get? l.holds.get? (Hold.Shows r.accounts)
  /-- The aliases of accounts are kept in rising order. -/
  rising : r.accounts.Pairwise (·.1 < ·.1)
  /-- Every hold has an alias. -/
  named : r.holds.lookup "" = none
  minted : w.Minted

namespace Represents

variable {r : Runner} {w v : World} {l : AliasLedger} {name : String}

theorem mono (h : Represents r w l) (hstore : v.store = w.store) (hmade : w.made ≤ v.made) :
    Represents r v l where
  accounts := hstore ▸ h.accounts
  holds := hstore ▸ h.holds
  rising := h.rising
  named := h.named
  minted := h.minted.mono hstore hmade

/-- Nothing is set aside on an account that is unknown, because every hold is on a known one. -/
theorem reserved_of_unknown (h : Represents r w l) (hname : r.accounts.lookup name = none) :
    l.reserved name = 0 := by
  refine AliasLedger.reserved_eq_zero fun k hk hon => ?_
  rcases h.holds.cases k.name with ⟨_, hnone⟩ | ⟨_, g, k', _, _, hk', hshows⟩
  · rw [Table.get?_of_mem hk] at hnone
    cases hnone
  · rw [Table.get?_of_mem hk] at hk'
    cases hk'
    have haccount := hshows.account_eq
    rw [hon, hname] at haccount
    cases haccount

variable {id : AccountId} {a b : Account} {x y : AliasAccount}

/-- An alias is given to a new account. -/
theorem openAccount (h : Represents r w l) {accounts : Table Account.id}
    {known : Table AliasAccount.name} (hname : r.accounts.lookup x.name = none)
    (ha : w.store.accounts.insert? a = some accounts) (hx : l.accounts.insert? x = some known)
    (hshows : a.Shows l.reserved x) (haccounts : v.store.accounts = accounts)
    (hholds : v.store.holds = w.store.holds) (hminted : v.Minted) :
    Represents { r with accounts := Sorted.insert x.name a.id r.accounts } v
      { l with accounts := known } where
  accounts := by
    rw [haccounts]
    refine h.accounts.update (fun n => Sorted.lookup_insert n) (fun k => Table.get?_insert? ha k)
      (fun n => Table.get?_insert? hx n) hshows ?_ fun _ _ _ _ _ hb => hb
    intro n hn
    rcases h.accounts.row_of_lookup hn with ⟨b, _, hb, _, _⟩
    rw [Table.get?_eq_none_of_insert? ha] at hb
    cases hb
  holds := by
    -- The alias was free, so no hold is on its account and none changes its meaning.
    rw [hholds]
    refine h.holds.mono fun _ g k _ hg => ⟨?_, hg.2, hg.3⟩
    refine (Sorted.lookup_insert _).trans ?_
    have hknown := hg.account_eq
    split
    · next heq =>
        rw [← heq, hname] at hknown
        cases hknown
    · exact hknown
  rising := Sorted.pairwise_insert h.rising
  named := h.named
  minted := hminted

/-- The row of a known account changes. -/
theorem accounts_update (h : Represents r w l) (hid : r.accounts.lookup name = some id)
    (ha : w.store.accounts.get? id = some a) (hb : b.id = a.id) {accounts : Table Account.id}
    (haccounts : accounts = (w.store.setAccount b).accounts) {l' : AliasLedger}
    (hl' : ∀ n, l'.accounts.get? n = if name = n then some y else l.accounts.get? n)
    (hshows : b.Shows l'.reserved y) (hother : ∀ n, n ≠ name → l'.reserved n = l.reserved n) :
    Linked r.accounts accounts.get? l'.accounts.get? (Account.Shows l'.reserved) := by
  rw [haccounts]
  refine h.accounts.update (eq_ite_of_eq_some hid) (Store.get?_setAccount ha hb) hl' hshows
    (fun n hn => h.accounts.distinct hn hid) fun n hn c z hz hc => ?_
  have hname : z.name = n := Table.key_of_get? hz
  exact ⟨hc.1, hc.2, hc.3, hc.4.trans (by rw [hname, hother n hn]), hc.5⟩

/-- A known account gets another status or another balance. -/
theorem put (h : Represents r w l) (hid : r.accounts.lookup name = some id)
    (ha : w.store.accounts.get? id = some a) (hx : l.accounts.get? name = some x)
    (hstore : v.store = w.store.setAccount b) (hb : b.id = a.id) (hy : y.name = x.name)
    (hshows : b.Shows l.reserved y) (hminted : v.Minted) : Represents r v (l.put y) where
  accounts := h.accounts_update hid ha hb (congrArg Store.accounts hstore)
    (AliasLedger.get?_put hx hy) hshows fun _ _ => rfl
  holds := by
    rw [hstore]
    exact h.holds
  rising := h.rising
  named := h.named
  minted := hminted

/-- An alias is given to a new hold, and its account has less to spend. -/
theorem hold (h : Represents r w l) {g : Hold} {k : AliasHold} {holds : Table Hold.id}
    {known : Table AliasHold.name} (hid : r.accounts.lookup k.account = some id)
    (ha : w.store.accounts.get? id = some a) (hx : l.accounts.get? k.account = some x)
    (hname : k.name ≠ "") (hgk : g.Shows r.accounts k)
    (hg : w.store.holds.insert? g = some holds) (hk : l.holds.insert? k = some known)
    (hstore : v.store = { w.store.setAccount b with holds := holds }) (hb : b.id = a.id)
    (hshows : b.Shows ({ l with holds := known } : AliasLedger).reserved x) (hminted : v.Minted) :
    Represents { r with holds := Sorted.insert k.name g.id r.holds } v
      { l with holds := known } where
  accounts := by
    refine h.accounts_update hid ha hb (by rw [hstore]) (eq_ite_of_eq_some hx) hshows
      fun n hn => ?_
    rw [AliasLedger.reserved_hold hk, AliasHold.share, if_neg fun hon => hn hon.1.symm, add_zero]
  holds := by
    rw [hstore]
    refine h.holds.update (fun n => Sorted.lookup_insert n) (fun i => Table.get?_insert? hg i)
      (fun n => Table.get?_insert? hk n) hgk ?_ fun _ _ _ _ _ hb => hb
    intro n hn
    rcases h.holds.row_of_lookup hn with ⟨old, _, hold, _, _⟩
    rw [Table.get?_eq_none_of_insert? hg] at hold
    cases hold
  rising := h.rising
  named := by
    refine (Sorted.lookup_insert _).trans ?_
    rw [if_neg hname]
    exact h.named
  minted := hminted

/-- A hold is released, and its account has more to spend. -/
theorem release (h : Represents r w l) {i : HoldId} {g : Hold} {k : AliasHold} {time : Instant}
    (hi : r.holds.lookup k.name = some i) (hg : w.store.holds.get? i = some g)
    (hk : l.holds.get? k.name = some k) (hgk : g.Shows r.accounts k)
    (hid : r.accounts.lookup k.account = some id) (ha : w.store.accounts.get? id = some a)
    (hx : l.accounts.get? k.account = some x)
    (hstore : v.store = { w.store.setAccount b with
      holds := w.store.holds.replace { g with releasedAt := some time } }) (hb : b.id = a.id)
    (hshows : b.Shows ({ l with holds := l.holds.replace { k with released := true } } :
      AliasLedger).reserved x) (hminted : v.Minted) :
    Represents r v { l with holds := l.holds.replace { k with released := true } } where
  accounts := by
    refine h.accounts_update hid ha hb (by rw [hstore]) (eq_ite_of_eq_some hx) hshows
      fun n hn => ?_
    rw [AliasLedger.reserved_release hk, AliasHold.share, if_neg fun hon => hn hon.1.symm, sub_zero]
  holds := by
    have hgid : g.id = i := Table.key_of_get? hg
    rw [hstore]
    exact h.holds.update (a := { g with releasedAt := some time })
      (x := { k with released := true }) (eq_ite_of_eq_some hi)
      (Table.get?_replace_of_get? hg hgid) (Table.get?_replace_of_get? hk rfl)
      ⟨hgk.1, hgk.2, rfl⟩ (fun n hn => h.holds.distinct hn hi) fun _ _ _ _ _ hb => hb
  rising := h.rising
  named := h.named
  minted := hminted

end Represents

end BankLedger
