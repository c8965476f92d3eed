import BankLedger.Proofs.Event
import BankLedger.Proofs.Service.Closing
import BankLedger.Proofs.Service.Lived
import BankLedger.Proofs.Service.Tale

/-!
# The Last Balance That Is Announced

A credit or a debit moves the money, reads the account back, and announces what it has read. These
are three steps, and others may come between any two of them. Whoever moves money last reads back
the balance that stays, so that balance is always announced. But it need not be announced last: a
request that has read back too early may be slow to announce what it has read, and then the last
event on the queue carries a balance that was overtaken long ago.

This is the only way in which it can happen. It is shown on the journal of a run in which every
request has come to its end, where the last movement of money divides those that have read back too
early from those that have read what stays.

## Main definitions

* `Request.isMove`: A credit or a debit of an account.
* `Deed.Course`: What a credit or a debit has done when it has come to its end.
* `Deed.Told`: The one course that leads to an event.
* `Chronicle.lastBalance`: The last event on the queue that carries a balance of an account.
* `Event.Shows`: The event carries the balance that is stored.
* `Chronicle.Overtaken`: An event came too late for what it carries.
* `Chronicle.Divided`: A journal, divided at the last balance and the last movement before it.

## Theorems

* `Request.Tale.course`: The tale of a credit or a debit is one of three.
* `AllTold.shown`: Whoever looked after the last movement of money has seen what stays.
* `lastBalance_shows`: The last event carries the balance that is stored, or was overtaken.
* `not_shows_slowToTell`: Two credits, one of which overtakes the other.
-/

namespace BankLedger

open Deed

/-- The request puts money on the account or takes it off. -/
def Request.isMove (id : AccountId) : Request → Bool
  | .credit k _ => k = id
  | .debit k _ => k = id
  | _ => false

/-- The event carries the balance of the account that is stored under this identifier. -/
def Event.Shows (e : Event) (s : Store) (id : AccountId) : Prop :=
  ∃ a ∈ s.accounts.get? id, e.text? "balance" = some a.balance.toText

instance (e : Event) (s : Store) (id : AccountId) : Decidable (e.Shows s id) :=
  inferInstanceAs (Decidable (∃ a ∈ s.accounts.get? id, _))

/-- The event tells the balances of the account as it is here. -/
def Event.Tells (e : Event) (a : Account) : Prop :=
  ∃ made time, e = (Notice.balanceUpdated a).toEvent made time

/-- The event carries a balance of the account. -/
def Event.isBalanceOf (id : AccountId) (e : Event) : Bool :=
  e.kind = .balanceUpdated && e.account = id

theorem Event.Tells.isBalanceOf {e : Event} {a : Account} (h : e.Tells a) :
    e.isBalanceOf a.id = true := by
  rcases h with ⟨made, time, rfl⟩
  change (decide _ && decide (a.id = a.id)) = true
  rw [decide_eq_true rfl]
  rfl

theorem Event.Tells.shows {e : Event} {a : Account} {s : Store} {id : AccountId} (h : e.Tells a)
    (ha : s.accounts.get? id = some a) : e.Shows s id := by
  rcases h with ⟨made, time, rfl⟩
  exact ⟨a, ha, rfl⟩

namespace Deed

variable {id : AccountId}

/-- Money was moved, the account was read back, and this event told what had been read. -/
structure Told (id : AccountId) (deeds : List Deed) (move : Deed) (time : Instant) (a : Account)
    (e : Event) (taken : Bool) : Prop where
  moved : MovedMoney id move
  tells : e.Tells a
  eq : ∃ earlier, Traceless earlier ∧
    deeds = earlier ++ [move, .asked time (.getAccount id) (.ok a), .announced e taken]

/-- What a credit or a debit has done when it has come to its end: nothing that counts; or it has
    moved money and could not read the account back; or it has told what it read. -/
inductive Course (id : AccountId) (deeds : List Deed) : Prop where
  | refused (h : Traceless deeds)
  | unread (h : ReadBackFailed deeds)
  | told {move : Deed} {time : Instant} {a : Account} {e : Event} {taken : Bool}
      (h : Told id deeds move time a e taken)

theorem MovedMoney.change_ne_none {d : Deed} (h : MovedMoney id d) : change? d ≠ none := by
  cases h with
  | mk time delta reply =>
      simp [change?, Call.isMutating, Except.isOk, Except.toBool]

/-- When a list is split at the one entry for which something is true, it is split there. -/
theorem eq_of_only {α : Type} {P : α → Prop} {a b c e : List α} {x y : α}
    (h : a ++ x :: b = c ++ y :: e) (hy : P y) (ha : ∀ z ∈ a, ¬ P z) (hb : ∀ z ∈ b, ¬ P z) :
    c = a ∧ y = x ∧ e = b := by
  rcases List.append_eq_append_iff.mp h with ⟨l, rfl, hl⟩ | ⟨l, rfl, hl⟩
  · rcases l with _ | ⟨z, l⟩
    · cases hl
      exact ⟨List.append_nil a, rfl, rfl⟩
    · cases hl
      exact absurd hy (hb y (by simp))
  · rcases l with _ | ⟨z, l⟩
    · cases hl
      exact ⟨(List.append_nil c).symm, rfl, rfl⟩
    · cases hl
      exact absurd hy (ha y (by simp))

namespace Told

variable {deeds : List Deed} {move : Deed} {time : Instant} {a : Account} {e : Event} {taken : Bool}

-- Of these deeds one is the only change, and the last is the only event.
theorem of_change (h : Told id deeds move time a e taken) {earlier later : List Deed} {d : Deed}
    (hsplit : deeds = earlier ++ d :: later) (hd : change? d ≠ none) : d = move ∧
      later = [.asked time (.getAccount id) (.ok a), .announced e taken] := by
  rcases h.eq with ⟨first, hfirst, rfl⟩
  rcases eq_of_only (P := fun d => change? d ≠ none) hsplit hd
    (fun d hmem => not_not.mpr (List.filterMap_eq_nil_iff.mp hfirst.1 d hmem))
    (by simp [change?, Call.isMutating]) with ⟨_, hmove, hlater⟩
  exact ⟨hmove, hlater⟩

theorem of_event (h : Told id deeds move time a e taken) {earlier later : List Deed} {d : Deed}
    (hsplit : deeds = earlier ++ d :: later) (hd : event? d ≠ none) : d = .announced e taken ∧
      ∃ first, earlier = first ++ [move, .asked time (.getAccount id) (.ok a)] := by
  rcases h.eq with ⟨first, hfirst, rfl⟩
  have hquiet : ∀ d ∈ first ++ [move, .asked time (.getAccount id) (.ok a)], ¬ event? d ≠ none := by
    rcases h.moved
    simpa [event?, or_imp, forall_and] using List.filterMap_eq_nil_iff.mp hfirst.2
  have hsplit' : (first ++ [move, .asked time (.getAccount id) (.ok a)]) ++ .announced e taken :: []
      = earlier ++ d :: later := by
    rw [List.append_assoc]
    exact hsplit
  rcases eq_of_only (P := fun d => event? d ≠ none) hsplit' hd hquiet (by simp) with
    ⟨hearlier, hd, _⟩
  exact ⟨hd, first, hearlier⟩

end Told

end Deed

namespace Request

variable {id : AccountId} {settings : Settings} {r : Request} {deeds : List Deed}

/-- The tale of a credit or a debit is one of three. -/
theorem Tale.course {result : Except LedgerError Answer} (h : r.Tale settings deeds result)
    (hr : r.isMove id = true) : Course id deeds := by
  -- There are but two requests of this kind, and one change that they are after.
  have hmove : r.isMutating = true ∧ ∀ c, r.FulfilledBy settings c →
      ∃ delta, c = .applyDelta id delta := by
    cases r with
    | credit k x =>
        cases of_decide_eq_true hr
        refine ⟨rfl, fun c hc => ?_⟩
        cases hc
        exact ⟨_, rfl⟩
    | debit k x =>
        cases of_decide_eq_true hr
        refine ⟨rfl, fun c hc => ?_⟩
        cases hc
        exact ⟨_, rfl⟩
    | _ => cases hr
  cases h with
  | refused h e => exact .refused h
  | looked hlooks h answer => cases hlooks.symm.trans hmove.1
  | announced h hfulfilled hanswered hn made now taken =>
      rcases hmove.2 _ hfulfilled with ⟨delta, rfl⟩
      cases hn
  | @readBack earlier time time' k delta reply a h hfulfilled made now taken =>
      rcases hmove.2 _ hfulfilled with ⟨_, ⟨⟩⟩
      exact .told ⟨.mk time delta reply, ⟨made, now, rfl⟩, earlier, h, rfl⟩
  | unread h => exact .unread h
  | amended h hupdate _ =>
      rw [hupdate] at hr
      cases hr

end Request

namespace Chronicle

variable {ι : Type} [DecidableEq ι] {x : Chronicle ι} {id : AccountId}

/-- The last event on the queue that carries a balance of the account. -/
def lastBalance (x : Chronicle ι) (id : AccountId) : Option Event :=
  ((queued x.deeds).filter (·.isBalanceOf id)).getLast?

/-- The event came too late for what it carries. Its request had read the account back; then another
    request moved money, read back the balance that stays, and told it; and only then was this event
    announced. -/
def Overtaken (x : Chronicle ι) (id : AccountId) (e : Event) : Prop :=
  ∃ j i move time a move' time' a' e', i ≠ j ∧ e.Tells a ∧ e'.Tells a' ∧ e'.Shows x.store id ∧
    MovedMoney id move ∧ MovedMoney id move' ∧
    [(j, move), (j, .asked time (.getAccount id) (.ok a)),
      (i, move'), (i, .asked time' (.getAccount id) (.ok a')), (i, .announced e' true),
      (j, .announced e true)].Sublist x.journal

/-- What one request has done, in a part of a journal. -/
def own (i : ι) (l : List (ι × Deed)) : List Deed :=
  l.filterMap fun entry => if entry.1 = i then some entry.2 else none

section Own

variable {i j : ι} {l : List (ι × Deed)}

theorem own_append (i : ι) (l l' : List (ι × Deed)) : own i (l ++ l') = own i l ++ own i l' :=
  List.filterMap_append

theorem own_cons_self (i : ι) (d : Deed) (l : List (ι × Deed)) :
    own i ((i, d) :: l) = d :: own i l := by
  simp [own]

theorem own_cons_of_ne (h : j ≠ i) (d : Deed) (l : List (ι × Deed)) :
    own i ((j, d) :: l) = own i l := by
  simp [own, h]

theorem mem_own_iff {d : Deed} : d ∈ own i l ↔ (i, d) ∈ l := by
  simp [own]

theorem own_sublist (i : ι) (l : List (ι × Deed)) : ((own i l).map (i, ·)).Sublist l := by
  induction l with
  | nil => exact .slnil
  | cons entry l ih =>
      rcases entry with ⟨j, d⟩
      by_cases h : j = i
      · subst h
        rw [own_cons_self]
        exact ih.cons_cons _
      · rw [own_cons_of_ne h]
        exact ih.cons _

end Own

/-- Of the entries for which something is true, one is the last. -/
theorem exists_last {α : Type} {p : α → Prop} {l : List α} (h : ∃ a ∈ l, p a) :
    ∃ earlier a later, l = earlier ++ a :: later ∧ p a ∧ ∀ b ∈ later, ¬ p b := by
  induction l with
  | nil => simp at h
  | cons b l ih =>
      by_cases hl : ∃ a ∈ l, p a
      · rcases ih hl with ⟨earlier, a, later, rfl, ha, hlater⟩
        exact ⟨b :: earlier, a, later, rfl, ha, hlater⟩
      · rcases h with ⟨a, hmem, ha⟩
        rcases List.mem_cons.mp hmem with rfl | hmem
        · exact ⟨[], a, l, rfl, ha, fun b hb hpb => hl ⟨b, hb, hpb⟩⟩
        · exact absurd ⟨a, hmem, ha⟩ hl

theorem exists_own_of_mem {d : Deed} (h : d ∈ x.deeds) : ∃ i, d ∈ x.deedsOf i := by
  rcases List.mem_map.mp h with ⟨⟨i, d⟩, hmem, rfl⟩
  exact ⟨i, (mem_deedsOf_iff x i d).mpr hmem⟩

/-- Every request has come to its end as a credit or a debit that can read the account back and
    finds room for its event on the queue. -/
structure AllTold (x : Chronicle ι) (id : AccountId) : Prop where
  course : ∀ i, Course id (x.deedsOf i)
  readBack : ∀ i, ¬ ReadBackFailed (x.deedsOf i)
  room : ∀ d ∈ x.deeds, d.isLost = false
  lived : ∃ s : Store, s.Lived x.deeds x.store

namespace AllTold

variable (h : x.AllTold id) {i : ι} {d : Deed}

include h

/-- Whoever has changed or announced anything has told what it read back. -/
theorem exists_told (hd : d ∈ x.deedsOf i) (hloud : change? d ≠ none ∨ event? d ≠ none) :
    ∃ move time a e, Told id (x.deedsOf i) move time a e true := by
  cases h.course i with
  | refused hquiet =>
      have hchange := List.filterMap_eq_nil_iff.mp hquiet.1 d hd
      have hevent := List.filterMap_eq_nil_iff.mp hquiet.2 d hd
      exact (hloud.elim (absurd hchange) (absurd hevent))
  | unread hfailed => exact absurd hfailed (h.readBack i)
  | @told move time a e taken htold =>
      rcases htold.eq with ⟨earlier, _, heq⟩
      have hmem : (i, Deed.announced e taken) ∈ x.journal := by
        rw [← mem_deedsOf_iff, heq]
        simp
      have htaken := h.room _ (List.mem_map.mpr ⟨_, hmem, rfl⟩)
      cases taken with
      | false => cases htaken
      | true => exact ⟨move, time, a, e, htold⟩

theorem isBalanceOf {move : Deed} {time : Instant} {a : Account} {e : Event}
    (htold : Told id (x.deedsOf i) move time a e true) : e.isBalanceOf id = true := by
  rcases htold.eq with ⟨earlier, _, heq⟩
  have hmem : (i, .asked time (.getAccount id) (.ok a)) ∈ x.journal := by
    rw [← mem_deedsOf_iff, heq]
    simp
  rcases h.lived with ⟨s, hlived⟩
  have hid : a.id = id := hlived.id_of_look (List.mem_map.mpr ⟨_, hmem, rfl⟩)
  exact hid ▸ htold.tells.isBalanceOf

/-- When no balance was announced nothing was changed. -/
theorem changes_eq_nil (hnone : x.lastBalance id = none) : changes x.deeds = [] := by
  refine List.filterMap_eq_nil_iff.mpr fun d hd => ?_
  by_contra hchange
  rcases exists_own_of_mem hd with ⟨i, hi⟩
  rcases h.exists_told hi (Or.inl hchange) with ⟨move, time, a, e, htold⟩
  rcases htold.eq with ⟨earlier, _, heq⟩
  have hmem : (i, Deed.announced e true) ∈ x.journal := by
    rw [← mem_deedsOf_iff, heq]
    simp
  rw [lastBalance, List.getLast?_eq_none_iff, List.filter_eq_nil_iff] at hnone
  exact hnone e (List.mem_filterMap.mpr ⟨_, List.mem_map.mpr ⟨_, hmem, rfl⟩, rfl⟩)
    (h.isBalanceOf htold)

/-- No change was made after the last balance was announced. -/
theorem changes_after_eq_nil {before after : List (ι × Deed)} {entry : ι × Deed}
    (hjournal : x.journal = before ++ entry :: after)
    (hafter : ∀ k e, (k, .announced e true) ∈ after → e.isBalanceOf id = false) :
    changes (after.map Prod.snd) = [] := by
  refine List.filterMap_eq_nil_iff.mpr fun d hd => ?_
  by_contra hchange
  rcases List.mem_map.mp hd with ⟨⟨k, d⟩, hmem, rfl⟩
  have hown : x.deedsOf k = own k (before ++ [entry]) ++ own k after := by
    rw [← own_append, List.append_assoc, List.singleton_append, ← hjournal]
    rfl
  have hdown := mem_own_iff.mpr hmem
  have hmem' : d ∈ x.deedsOf k := hown ▸ List.mem_append_right _ hdown
  rcases h.exists_told hmem' (Or.inl hchange) with ⟨move, time, a, e, htold⟩
  -- What a request tells comes after its change, so it would have come after the last balance.
  rcases List.append_of_mem hdown with ⟨earlier, later, hsplit⟩
  rw [hsplit, ← List.append_assoc] at hown
  rcases htold.of_change hown hchange with ⟨_, hlater⟩
  have htells : (k, Deed.announced e true) ∈ after := by
    rw [← mem_own_iff, hsplit, hlater]
    simp
  exact Bool.false_ne_true ((hafter k e htells).symm.trans (h.isBalanceOf htold))

end AllTold

omit [DecidableEq ι] in
/-- The last balance that was announced divides the journal. -/
theorem exists_lastBalance {e : Event} (hlast : x.lastBalance id = some e) :
    ∃ before j after, x.journal = before ++ (j, .announced e true) :: after ∧
      ∀ k e', (k, .announced e' true) ∈ after → e'.isBalanceOf id = false := by
  have hsome : ∃ entry ∈ x.journal, ∃ e', entry.2 = .announced e' true ∧
      e'.isBalanceOf id = true := by
    rcases List.mem_filter.mp (List.mem_of_getLast? hlast) with ⟨hmem, hid⟩
    rcases List.mem_filterMap.mp hmem with ⟨d, hd, hqueued⟩
    rcases List.mem_map.mp hd with ⟨entry, hentry, rfl⟩
    exact ⟨entry, hentry, e, (queued?_eq_some_iff e _).mp hqueued, hid⟩
  rcases exists_last hsome with ⟨before, ⟨j, d⟩, after, hjournal, ⟨e', hd, hid⟩, hafter⟩
  cases hd
  have hnone : ∀ k e, (k, .announced e true) ∈ after → e.isBalanceOf id = false := by
    intro k e hmem
    by_contra hbalance
    exact hafter _ hmem ⟨e, rfl, Bool.not_eq_false _ ▸ hbalance⟩
  have hafter' : (queued (after.map Prod.snd)).filter (·.isBalanceOf id) = [] := by
    refine List.filter_eq_nil_iff.mpr fun e hmem => ?_
    rcases List.mem_filterMap.mp hmem with ⟨d, hd, hqueued⟩
    rcases List.mem_map.mp hd with ⟨⟨k, d⟩, hentry, rfl⟩
    cases (queued?_eq_some_iff e d).mp hqueued
    rw [hnone k e hentry]
    exact Bool.false_ne_true
  have hqueued : queued (.announced e' true :: after.map Prod.snd)
      = e' :: queued (after.map Prod.snd) := rfl
  rw [lastBalance, deeds, hjournal, List.map_append, List.map_cons, queued_append, hqueued,
    List.filter_append, List.filter_cons_of_pos hid, hafter', List.getLast?_concat] at hlast
  cases hlast
  exact ⟨before, j, after, hjournal, hnone⟩

/-- When something is left for the second part, the last is in it. -/
theorem mem_of_append_eq {α : Type} {first second whole : List α} {last : α}
    (h : first ++ second = whole) (hlast : whole.getLast? = some last) (hsecond : second ≠ []) :
    last ∈ second := by
  rw [← h, List.getLast?_append_of_ne_nil _ hsecond] at hlast
  exact List.mem_of_getLast? hlast

namespace AllTold

variable (h : x.AllTold id)

include h

/-- When no money has moved nothing was changed. -/
theorem changes_eq_nil_of_unmoved {l : List (ι × Deed)} (hl : ∀ entry ∈ l, entry ∈ x.journal)
    (hunmoved : ∀ entry ∈ l, ¬ MovedMoney id entry.2) : changes (l.map Prod.snd) = [] := by
  refine List.filterMap_eq_nil_iff.mpr fun d hd => ?_
  by_contra hchange
  rcases List.mem_map.mp hd with ⟨⟨k, d⟩, hmem, rfl⟩
  have hown := (mem_deedsOf_iff x k d).mpr (hl _ hmem)
  rcases h.exists_told hown (Or.inl hchange) with ⟨move, time, a, e, htold⟩
  rcases List.append_of_mem hown with ⟨earlier, later, hsplit⟩
  rcases htold.of_change hsplit hchange with ⟨rfl, _⟩
  exact hunmoved _ hmem htold.moved

end AllTold

/-- The journal is divided at the last balance that was announced, which was announced by `j`, and
    at the last movement of money before it, which was made by `i`. -/
structure Divided (x : Chronicle ι) (id : AccountId) (e : Event) (before : List (ι × Deed)) (i : ι)
    (move : Deed) (between : List (ι × Deed)) (j : ι) (after : List (ι × Deed)) : Prop where
  journal : x.journal = (before ++ (i, move) :: between) ++ (j, .announced e true) :: after
  moved : MovedMoney id move
  unmoved : ∀ entry ∈ between, ¬ MovedMoney id entry.2
  last : ∀ k e', (k, .announced e' true) ∈ after → e'.isBalanceOf id = false

namespace AllTold

variable (h : x.AllTold id) {e : Event}

include h

/-- Whoever announced the last balance had moved money before, so the journal can be divided. -/
theorem exists_divided (hlast : x.lastBalance id = some e) :
    ∃ before i move' between j after move time a earlier,
      x.Divided id e before i move' between j after ∧
      Told id (x.deedsOf j) move time a e true ∧ own j (before ++ (i, move') :: between)
        = earlier ++ [move, .asked time (.getAccount id) (.ok a)] := by
  rcases exists_lastBalance hlast with ⟨front, j, after, hjournal, hafter⟩
  have hj : x.deedsOf j = own j front ++ .announced e true :: own j after := by
    rw [← own_cons_self, ← own_append, ← hjournal]
    rfl
  have hmem : .announced e true ∈ x.deedsOf j := by simp [hj]
  rcases h.exists_told hmem (Or.inr (by simp [event?])) with ⟨move, time, a, e', htold⟩
  rcases htold.of_event hj (by simp [event?]) with ⟨heq, earlier, hfront⟩
  cases heq
  have hmoved : ∃ entry ∈ front, MovedMoney id entry.2 := by
    refine ⟨(j, move), ?_, htold.moved⟩
    rw [← mem_own_iff, hfront]
    simp
  rcases exists_last hmoved with ⟨before, ⟨i, move'⟩, between, rfl, hmove', hbetween⟩
  exact ⟨before, i, move', between, j, after, move, time, a, earlier,
    ⟨hjournal, hmove', hbetween, hafter⟩, htold, hfront⟩

variable {before between after : List (ι × Deed)} {i j : ι} {move : Deed}

/-- Whoever looked after the last movement of money has seen what stays. -/
theorem shown (hx : x.Divided id e before i move between j after) {k : ι} {time : Instant}
    {a : Account} (hmem : (k, .asked time (.getAccount id) (.ok a)) ∈ between) :
    x.store.accounts.get? id = some a := by
  have hquiet := h.changes_after_eq_nil hx.journal hx.last
  rcases List.append_of_mem hmem with ⟨first, rest, rfl⟩
  have hrest : changes (rest.map Prod.snd) = [] := by
    refine h.changes_eq_nil_of_unmoved (fun entry hentry => ?_) fun entry hentry => ?_
    · simp [hx.journal, hentry]
    · exact hx.unmoved entry (by simp [hentry])
  rcases h.lived with ⟨s, hlived⟩
  have hdeeds : x.deeds = ((before ++ (i, move) :: first).map Prod.snd) ++
      .asked time (.getAccount id) (.ok a) ::
        (rest ++ (j, .announced e true) :: after).map Prod.snd := by
    simp [deeds, hx.journal]
  rw [hdeeds] at hlived
  refine hlived.row_of_last_look ?_
  rw [List.map_append, changes_append, hrest]
  exact hquiet

/-- Whoever moved money last has told what stays, and this before the last balance. -/
theorem mover_told (hx : x.Divided id e before i move between j after) (hij : i ≠ j) :
    ∃ time a e', e'.Tells a ∧
      own i between = [.asked time (.getAccount id) (.ok a), .announced e' true] := by
  have hi : x.deedsOf i = own i before ++ move :: (own i between ++ own i after) := by
    change own i x.journal = _
    rw [hx.journal, own_append, own_append, own_cons_self, own_cons_of_ne hij.symm,
      List.append_assoc, List.cons_append]
  have hchange := hx.moved.change_ne_none
  have hmem : move ∈ x.deedsOf i := by simp [hi]
  rcases h.exists_told hmem (Or.inl hchange) with ⟨_, time, a, e', htold⟩
  rcases htold.of_change hi hchange with ⟨_, hlater⟩
  -- Nothing of it came after the last balance, or its own would have been the last.
  have hlate : own i after = [] := by
    by_contra hsome
    have hmem := mem_of_append_eq hlater rfl hsome
    rw [mem_own_iff] at hmem
    exact Bool.false_ne_true ((hx.last i e' hmem).symm.trans (h.isBalanceOf htold))
  rw [hlate, List.append_nil] at hlater
  exact ⟨time, a, e', htold.tells, hlater⟩

-- The last movement of money divides those who have looked too early from those who have seen what
-- stays, so the only question is where the look of the last one to announce a balance is.
/-- The last balance that was announced is the one that stays, or it was overtaken. -/
theorem shows_or_overtaken (hlast : x.lastBalance id = some e) :
    e.Shows x.store id ∨ x.Overtaken id e := by
  rcases h.exists_divided hlast with
    ⟨before, i, move', between, j, after, move, time, a, earlier, hx, htold, hfront⟩
  by_cases hlook : (j, .asked time (.getAccount id) (.ok a)) ∈ between
  · exact Or.inl (htold.tells.shows (h.shown hx hlook))
  · right
    -- The look came before the last movement, and so did all that its request had done by then.
    have hnone : own j ((i, move') :: between) = [] := by
      by_contra hsome
      rw [own_append] at hfront
      have hmem := mem_of_append_eq hfront (List.getLast?_append_of_ne_nil _ nofun) hsome
      rw [mem_own_iff, List.mem_cons, Prod.mk.injEq] at hmem
      rcases hmem with ⟨_, heq⟩ | hmem
      · exact hx.moved.change_ne_none (heq ▸ rfl)
      · exact hlook hmem
    have hij : i ≠ j := by
      rintro rfl
      simp [own_cons_self] at hnone
    rw [own_append, hnone, List.append_nil] at hfront
    rcases h.mover_told hx hij with ⟨time', a', e', htells, hbetween⟩
    have hread : (i, .asked time' (.getAccount id) (.ok a')) ∈ between := by
      rw [← mem_own_iff, hbetween]
      simp
    refine ⟨j, i, move, time, a, move', time', a', e', hij, htold.tells, htells,
      htells.shows (h.shown hx hread), htold.moved, hx.moved, ?_⟩
    have hfirst := own_sublist j before
    have hsecond := own_sublist i between
    rw [hfront, List.map_append] at hfirst
    rw [hbetween] at hsecond
    rw [hx.journal]
    exact (((List.sublist_append_right _ _).trans hfirst).append (hsecond.cons_cons _)).append
      ((List.nil_sublist after).cons_cons _)

end AllTold

variable (moments : ι → Nat → Moment)

/-- When credits and debits of one account have come to an end, on any schedule, and each of them
    could read the account back and found room on the queue: no money has moved and no balance was
    announced, or the last balance that they have put on the queue is the one that is stored, unless
    it was overtaken. -/
theorem lastBalance_shows (settings : Settings) (w : World) {requests : ι → Request}
    (hmoves : ∀ i, (requests i).isMove id = true) (schedule : List ι)
    (hx : x = (start settings w requests).run moments schedule) (hfinished : x.traffic.Finished)
    (hread : ∀ i, ¬ ReadBackFailed (x.deedsOf i)) (hroom : ∀ d ∈ x.deeds, d.isLost = false) :
    x.traffic.world.outbox.waiting = w.outbox.waiting ++ queued x.deeds ∧
      ((x.lastBalance id = none ∧ x.store = w.store) ∨
        ∃ e, x.lastBalance id = some e ∧ (e.Shows x.store id ∨ x.Overtaken id e)) := by
  subst hx
  refine ⟨(recorded_run moments settings w requests schedule).waiting_eq, ?_⟩
  have hcourse : ∀ i, Course id (((start settings w requests).run moments schedule).deedsOf i) := by
    intro i
    have hkeeps := keeps_run moments settings w (fun i => (requests i).keeps_tale settings)
      schedule i
    rcases hkeeps.busy_or_ends with ⟨hbusy, _⟩ | ⟨r, _, hends⟩
    · exact absurd ((hfinished i).symm.trans hbusy) (by simp)
    · exact hends.course (hmoves i)
  have htold : AllTold ((start settings w requests).run moments schedule) id :=
    ⟨hcourse, hread, hroom, w.store, lived_run moments settings w requests schedule⟩
  rcases hlast : lastBalance _ id with _ | e
  · have hchanged := (lived_run moments settings w requests schedule).changed
    rw [htold.changes_eq_nil hlast] at hchanged
    exact Or.inl ⟨rfl, hchanged.eq_of_nil⟩
  · exact Or.inr ⟨e, rfl, htold.shows_or_overtaken hlast⟩

/-- To put a hundred or a hundredth on an account. -/
def hundredOrHundredth (hundred : Bool) : Request :=
  .credit default (if hundred then Request.hundred else .hundredth)

/-- The hundredth is put on the account and read back. Then the hundred is put on it, read back and
    announced, and only then the hundredth is announced. -/
def slowToTell : Chronicle Bool :=
  (start .default newAccount hundredOrHundredth).run (fun _ _ => ⟨.epoch, 0, 0, none⟩)
    [false, false, false, true, true, true, true, false]

theorem slowToTell_finished : slowToTell.traffic.Finished ∧
    (∀ i, ¬ ReadBackFailed (slowToTell.deedsOf i)) ∧ ∀ d ∈ slowToTell.deeds, d.isLost = false := by
  have hanswered : ∀ i, ∀ d ∈ (slowToTell.deedsOf i).getLast?, d.isRefused = false := by
    decide +kernel
  refine ⟨?_, fun i => not_readBackFailed_of_last (hanswered i), by decide +kernel⟩
  unfold Traffic.Finished
  decide +kernel

theorem slowToTell_lastBalance :
    ∀ e ∈ slowToTell.lastBalance default, ¬ e.Shows slowToTell.store default := by decide +kernel

/-- So the last balance on the queue need not be the one that is stored. -/
theorem not_shows_slowToTell : (∀ i, (hundredOrHundredth i).isMove default = true) ∧
    slowToTell.traffic.Finished ∧ (∀ i, ¬ ReadBackFailed (slowToTell.deedsOf i)) ∧
    (∀ d ∈ slowToTell.deeds, d.isLost = false) ∧
    ∃ e, slowToTell.lastBalance default = some e ∧ ¬ e.Shows slowToTell.store default := by
  refine ⟨fun _ => rfl, slowToTell_finished.1, slowToTell_finished.2.1, slowToTell_finished.2.2, ?_⟩
  rcases hlast : slowToTell.lastBalance default with _ | e
  · exact absurd hlast (by decide +kernel)
  · exact ⟨e, rfl, slowToTell_lastBalance e hlast⟩

/-- It was overtaken. -/
theorem slowToTell_overtaken : ∃ e, slowToTell.lastBalance default = some e ∧
    slowToTell.Overtaken default e := by
  have hmoves : ∀ i, (hundredOrHundredth i).isMove default = true := fun _ => rfl
  rcases lastBalance_shows _ .default newAccount hmoves _ (x := slowToTell) rfl
    slowToTell_finished.1 slowToTell_finished.2.1 slowToTell_finished.2.2 with
    ⟨_, ⟨hnone, _⟩ | ⟨e, hlast, hshows | hovertaken⟩⟩
  · exact absurd hnone (by decide +kernel)
  · exact absurd hshows (slowToTell_lastBalance e hlast)
  · exact ⟨e, hlast, hovertaken⟩

end Chronicle

end BankLedger
