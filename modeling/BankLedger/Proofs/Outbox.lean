import BankLedger.Outbox

/-!
# What becomes of an event

Senders put events into the queue, the worker takes them out one at a time, and the publisher takes
or refuses each. All of them move when they like. An event can be lost at two places only: it finds
the queue full, or the publisher refuses it. What is left keeps its order, and nothing is handed on
twice.

The queue remembers none of this, so a run is told as a `Story`, which writes down every attempt to
send with what the sender found, every event that the worker took, and every answer of the
publisher. `Story.Sound` is kept by each move, whoever makes it.

## Main definitions

* `Sending`: One attempt to send.
* `Story`: A delivery with all that has happened in it.
* `Story.Sound`: How the parts of a story belong together at any time.
* `Delivery.workOff`: The moves with which the worker comes to its end.
* `Story.Faithful`: What a sound story says to those outside.

## Theorems

* `Story.sound_run`: Every story is sound, whatever the moves are.
* `Story.faithful`: What is published, refused and lost, for every run.
* `Story.Sound.published_eq_deliver`: With a publisher that goes by the event, what is published at
  the end is what the publisher delivers out of what the worker took.
* `Delivery.run_workOff`, `run_workOff_deliver`: Without senders the worker comes to its end by
  itself.
-/

namespace BankLedger

namespace Outbox

theorem accepts_iff (o : Outbox) :
    o.accepts = true ↔ o.received = true ∧ o.waiting.length < o.capacity := by
  simp [accepts]

@[simp]
theorem capacity_enqueue (o : Outbox) (e : Event) : (o.enqueue e).capacity = o.capacity := by
  unfold enqueue
  split <;> rfl

@[simp]
theorem received_enqueue (o : Outbox) (e : Event) : (o.enqueue e).received = o.received := by
  unfold enqueue
  split <;> rfl

theorem waiting_enqueue (o : Outbox) (e : Event) :
    (o.enqueue e).waiting = o.waiting ++ if o.accepts then [e] else [] := by
  unfold enqueue
  split <;> simp

end Outbox

/-- One attempt to send an event. -/
structure Sending where
  event : Event
  /-- How many events waited then. -/
  waiting : Nat
  /-- There was a receiver then. -/
  received : Bool

namespace Delivery

/-- The attempt to send that a move is. -/
def sending (d : Delivery) : Move → List Sending
  | .enqueue e => if d.senders = 0 then [] else [⟨e, d.outbox.waiting.length, d.outbox.received⟩]
  | _ => []

/-- What the worker takes in a move. -/
def taking (d : Delivery) : Move → List Event
  | .receive => if d.outbox.received && d.inHand.isNone then d.outbox.waiting.take 1 else []
  | _ => []

/-- What the publisher answers in a move, and for which event. -/
def answering (d : Delivery) : Move → List (Event × Bool)
  | .publish taken => if d.outbox.received then d.inHand.toList.map (·, taken) else []
  | _ => []

/-- The worker is still there, or it has come to its own end. -/
def Unbroken (d : Delivery) : Prop := d.outbox.received = true ∨ d.ended = true

variable {d : Delivery}

/-- The events that are left: the one in the hand of the worker, and those that wait. -/
def left (d : Delivery) : List Event := d.inHand.toList ++ d.outbox.waiting

/-- The moves with which the worker takes what is left, gets an answer for each event, and ends. -/
def workOff : List Bool → List Move
  | [] => [.receive]
  | taken :: answers => .receive :: .publish taken :: workOff answers

theorem run_cons (d : Delivery) (m : Move) (moves : List Move) :
    d.run (m :: moves) = (d.step m).run moves := rfl

/-- To ask the queue and to get an answer is to be done with the first event that is left. -/
theorem step_step_of_left_eq {e : Event} {rest : List Event} (hr : d.outbox.received = true)
    (hleft : d.left = e :: rest) (taken : Bool) :
    (d.step .receive).step (.publish taken)
      = { d with outbox := { d.outbox with waiting := rest } }.publish e taken := by
  rcases d with ⟨⟨capacity, waiting, received⟩, senders, inHand, published, delivered, ended⟩
  obtain rfl : received = true := hr
  cases inHand with
  | some e' =>
      cases hleft
      rfl
  | none =>
      obtain rfl : waiting = e :: rest := hleft
      cases taken <;> rfl

-- By induction on the answers, one for each event that is left.
/-- Once the last sender has gone the worker needs nobody but the publisher: what the publisher
    takes out of what is left is published and counted, and the worker is at its end. -/
theorem run_workOff {answers : List Bool} (hs : d.senders = 0) (hr : d.outbox.received = true)
    (hlength : answers.length = d.left.length) : d.run (workOff answers) =
      { d with
        outbox := d.outbox.abandon
        inHand := none
        published := d.published ++ ((d.left.zip answers).filter (·.2)).map (·.1)
        delivered := d.delivered + ((d.left.zip answers).filter (·.2)).length
        ended := true } := by
  induction answers generalizing d with
  | nil =>
      rcases List.append_eq_nil_iff.mp (List.eq_nil_of_length_eq_zero hlength.symm) with
        ⟨hhand, hwaiting⟩
      have hfree : d.inHand = none := Option.toList_eq_nil_iff.mp hhand
      simp [workOff, run, step, receive, Outbox.receive?, hs, hr, hfree, hwaiting]
  | cons taken answers ih =>
      rcases List.exists_cons_of_length_eq_add_one hlength.symm with ⟨e, rest, hleft⟩
      rw [hleft, List.length_cons, List.length_cons, Nat.add_right_cancel_iff] at hlength
      rw [workOff, run_cons, run_cons, step_step_of_left_eq hr hleft taken, hleft,
        List.zip_cons_cons]
      cases taken with
      | true =>
          refine (ih (d := publish { d with outbox := { d.outbox with waiting := rest } } e true)
            hs hr hlength).trans ?_
          simp [publish, left, Outbox.abandon, Nat.add_assoc, Nat.add_comm]
      | false =>
          exact ih (d := publish { d with outbox := { d.outbox with waiting := rest } } e false)
            hs hr hlength

/-- With a publisher that goes by the event, what is published and counted is what it delivers out
    of what is left. -/
theorem run_workOff_deliver (p : Publisher) (hs : d.senders = 0) (hr : d.outbox.received = true) :
    d.run (workOff (d.left.map p.accepts)) =
      { d with
        outbox := d.outbox.abandon
        inHand := none
        published := d.published ++ p.deliver d.left
        delivered := d.delivered + (p.deliver d.left).length
        ended := true } := by
  have hzip : d.left.zip (d.left.map p.accepts) = d.left.map fun e => (e, p.accepts e) := by
    rw [List.zip_eq_zipWith, List.zipWith_map_right, List.zipWith_self]
  have htaken : (d.left.zip (d.left.map p.accepts)).filter (·.2)
      = (p.deliver d.left).map fun e => (e, p.accepts e) := by
    rw [hzip, List.filter_map]
    rfl
  rw [run_workOff hs hr (List.length_map _), htaken, List.length_map, List.map_map]
  simp only [Function.comp_def, List.map_id']

end Delivery

/-- A delivery with all that has happened in it. -/
structure Story where
  now : Delivery
  sent : List Sending
  /-- The events that the worker took. -/
  taken : List Event
  /-- The answers of the publisher. -/
  answers : List (Event × Bool)

namespace Story

/-- Nothing has happened yet. -/
def start (capacity : Nat) : Story := ⟨.start capacity, [], [], []⟩

/-- One move, and what is to be told of it. -/
def step (s : Story) (m : Delivery.Move) : Story where
  now := s.now.step m
  sent := s.sent ++ s.now.sending m
  taken := s.taken ++ s.now.taking m
  answers := s.answers ++ s.now.answering m

/-- The story of some moves, one after the other. -/
def run (s : Story) (moves : List Delivery.Move) : Story := moves.foldl step s

/-- The attempts to send that found a receiver and room in a queue of that capacity. -/
def accepted (capacity : Nat) (sent : List Sending) : List Event :=
  (sent.filter fun x => x.received && x.waiting < capacity).map (·.event)

/-- How the parts of a story belong together. -/
structure Sound (capacity : Nat) (s : Story) : Prop where
  capacity_eq : s.now.outbox.capacity = capacity
  room : s.now.outbox.waiting.length ≤ capacity
  sent_room : ∀ x ∈ s.sent, x.waiting ≤ capacity
  /-- What was accepted has been taken or still waits, in this order. -/
  unlost : s.now.Unbroken → s.taken ++ s.now.outbox.waiting = accepted capacity s.sent
  /-- Nothing else was ever taken, also when the receiver has gone away with what waited. -/
  taken_prefix : s.taken <+: accepted capacity s.sent
  gone : s.now.outbox.received = false → s.now.outbox.waiting = []
  attended : s.now.Unbroken → ∀ x ∈ s.sent, x.received = true
  taken_eq : s.taken = s.answers.map (·.1) ++ s.now.inHand.toList
  published_eq : s.now.published = (s.answers.filter (·.2)).map (·.1)
  delivered_eq : s.now.delivered = s.now.published.length
  ended : s.now.ended = true →
    s.now.outbox.received = false ∧ s.now.senders = 0 ∧ s.now.inHand = none

theorem sound_start (capacity : Nat) : (start capacity).Sound capacity := by
  constructor <;> simp [start, Delivery.start, Outbox.ofCapacity, accepted]

theorem accepted_sent {capacity : Nat} {o : Outbox} (ho : o.capacity = capacity)
    (sent : List Sending) (e : Event) :
    accepted capacity (sent ++ [⟨e, o.waiting.length, o.received⟩]) =
      accepted capacity sent ++ if o.accepts then [e] else [] := by
  subst ho
  by_cases ha : o.accepts = true
  · have hb := (o.accepts_iff).mp ha
    simp [accepted, ha, hb.1, hb.2]
  · have hb : ¬ (o.received = true ∧ o.waiting.length < o.capacity) := ha ∘ o.accepts_iff.mpr
    simp [accepted, ha, hb]

/-- Senders come and go, the story stays. -/
theorem Sound.with_senders {capacity n : Nat} {s : Story} (h : s.Sound capacity)
    (hn : s.now.ended = true → n = 0) :
    ({ s with now := { s.now with senders := n } } : Story).Sound capacity :=
  { h with
    ended he := ⟨(h.ended he).1, hn he, (h.ended he).2.2⟩ }

/-- An event that is sent joins the end of the queue, or is told of as lost. -/
theorem Sound.enqueue {capacity : Nat} {s : Story} (h : s.Sound capacity) (e : Event)
    (hn : s.now.ended = false) :
    ({ s with
        now := { s.now with outbox := s.now.outbox.enqueue e }
        sent := s.sent ++ [⟨e, s.now.outbox.waiting.length, s.now.outbox.received⟩] } :
      Story).Sound capacity where
  capacity_eq := by simp [h.capacity_eq]
  room := by
    have hr := h.room
    rw [Outbox.waiting_enqueue, List.length_append]
    by_cases ha : s.now.outbox.accepts = true
    · have hb := (s.now.outbox.accepts_iff.mp ha).2
      rw [h.capacity_eq] at hb
      simp only [ha, if_true, List.length_singleton]
      omega
    · simpa [ha] using hr
  sent_room := by
    simp only [List.mem_append, List.mem_singleton]
    rintro x (hx | rfl)
    · exact h.sent_room x hx
    · exact h.room
  unlost hu := by
    have hu : s.now.Unbroken := by simpa [Delivery.Unbroken] using hu
    rw [accepted_sent h.capacity_eq, ← h.unlost hu, Outbox.waiting_enqueue, List.append_assoc]
  taken_prefix := by
    rw [accepted_sent h.capacity_eq]
    exact h.taken_prefix.trans (List.prefix_append _ _)
  gone hg := by
    rw [Outbox.received_enqueue] at hg
    have ha : s.now.outbox.accepts = false := by simp [Outbox.accepts, hg]
    simp [Outbox.waiting_enqueue, ha, h.gone hg]
  attended hu := by
    have hu : s.now.outbox.received = true := by simpa [Delivery.Unbroken, hn] using hu
    simp only [List.mem_append, List.mem_singleton]
    rintro x (hx | rfl)
    · exact h.attended (.inl hu) x hx
    · exact hu
  taken_eq := h.taken_eq
  published_eq := h.published_eq
  delivered_eq := h.delivered_eq
  ended he := by simp [hn] at he

/-- The worker takes the first event that waits. -/
theorem Sound.taken {capacity : Nat} {s : Story} (h : s.Sound capacity) {e : Event}
    {waiting : List Event} (hw : s.now.outbox.waiting = e :: waiting)
    (hr : s.now.outbox.received = true) (hh : s.now.inHand = none) :
    ({ s with
        now := { s.now with
          outbox := { s.now.outbox with waiting := waiting }, inHand := some e }
        taken := s.taken ++ [e] } : Story).Sound capacity :=
  { h with
    room := by
      have hroom := h.room
      rw [hw, List.length_cons] at hroom
      exact Nat.le_of_succ_le hroom
    unlost _ := by
      rw [← h.unlost (.inl hr), hw]
      simp
    taken_prefix := by
      rw [← h.unlost (.inl hr), hw]
      exact ⟨waiting, by simp⟩
    gone hg := by simp [hr] at hg
    attended _ := h.attended (.inl hr)
    taken_eq := by simp [h.taken_eq, hh]
    ended he := by simp [(h.ended he).1] at hr }

/-- With no sender left and nothing to take the worker comes to its end. -/
theorem Sound.finished {capacity : Nat} {s : Story} (h : s.Sound capacity)
    (hw : s.now.outbox.waiting = []) (hs : s.now.senders = 0)
    (hr : s.now.outbox.received = true) (hh : s.now.inHand = none) :
    ({ s with now := { s.now with outbox := s.now.outbox.abandon, ended := true } } :
      Story).Sound capacity :=
  { h with
    room := Nat.zero_le _
    unlost _ := by simpa [Outbox.abandon, hw] using h.unlost (.inl hr)
    gone _ := rfl
    attended _ := h.attended (.inl hr)
    ended _ := ⟨rfl, hs, hh⟩ }

/-- The publisher takes an event or refuses it, and the worker's hand is free again. -/
theorem Sound.publish {capacity : Nat} {s : Story} (h : s.Sound capacity) {e : Event}
    (hh : s.now.inHand = some e) (taken : Bool) :
    ({ s with now := s.now.publish e taken, answers := s.answers ++ [(e, taken)] } :
      Story).Sound capacity := by
  have hn : s.now.ended = true → False := fun he => by simp [(h.ended he).2.2] at hh
  cases taken
  all_goals exact {
    h with
    taken_eq := by simp [Delivery.publish, h.taken_eq, hh]
    published_eq := by simp [Delivery.publish, h.published_eq]
    delivered_eq := by simp [Delivery.publish, h.delivered_eq]
    ended := fun he => (hn he).elim }

/-- The receiver goes away: what waited is lost, what was told before stays true. -/
theorem Sound.abandon {capacity : Nat} {s : Story} (h : s.Sound capacity) :
    ({ s with now := { s.now with outbox := s.now.outbox.abandon } } : Story).Sound capacity :=
  { h with
    room := Nat.zero_le _
    unlost hu := by
      have he : s.now.ended = true := by simpa [Delivery.Unbroken, Outbox.abandon] using hu
      simpa [Outbox.abandon, h.gone (h.ended he).1] using h.unlost (.inr he)
    gone _ := rfl
    attended hu := by
      have he : s.now.ended = true := by simpa [Delivery.Unbroken, Outbox.abandon] using hu
      exact h.attended (.inr he)
    ended he := ⟨rfl, (h.ended he).2⟩ }

-- Each move is one of the cases above, or it changes nothing and there is nothing to tell.
theorem Sound.step {capacity : Nat} {s : Story} (h : s.Sound capacity) (m : Delivery.Move) :
    (s.step m).Sound capacity := by
  have idle : ∀ {m}, s.now.step m = s.now → s.now.sending m = [] → s.now.taking m = [] →
      s.now.answering m = [] → (s.step m).Sound capacity := by
    intro m h₁ h₂ h₃ h₄
    simpa [Story.step, h₁, h₂, h₃, h₄] using h
  cases m with
  | join =>
      by_cases hs : s.now.senders = 0
      · exact idle (by simp [Delivery.step, hs]) rfl rfl rfl
      · have hj := h.with_senders (n := s.now.senders + 1) fun he => (hs (h.ended he).2.1).elim
        simpa [Story.step, Delivery.step, Delivery.sending, Delivery.taking, Delivery.answering,
          hs] using hj
  | leave =>
      have hl := h.with_senders (n := s.now.senders - 1) fun he => by simp [(h.ended he).2.1]
      simpa [Story.step, Delivery.step, Delivery.sending, Delivery.taking, Delivery.answering]
        using hl
  | enqueue e =>
      by_cases hs : s.now.senders = 0
      · exact idle (by simp [Delivery.step, hs]) (by simp [Delivery.sending, hs]) rfl rfl
      · have hn : s.now.ended = false :=
          Bool.eq_false_iff.mpr fun he => hs (h.ended he).2.1
        simpa [Story.step, Delivery.step, Delivery.sending, Delivery.taking, Delivery.answering,
          hs] using h.enqueue e hn
  | receive =>
      by_cases hb : s.now.outbox.received = true ∧ s.now.inHand = none
      · rcases hw : s.now.outbox.waiting with _ | ⟨e, waiting⟩
        · by_cases hs : s.now.senders = 0
          · simpa [Story.step, Delivery.step, Delivery.receive, Outbox.receive?, Delivery.sending,
              Delivery.taking, Delivery.answering, hb.1, hb.2, hw, hs]
              using h.finished hw hs hb.1 hb.2
          · exact idle
              (by simp [Delivery.step, Delivery.receive, Outbox.receive?, hb.1, hb.2, hw, hs])
              rfl (by simp [Delivery.taking, hw]) rfl
        · simpa [Story.step, Delivery.step, Delivery.receive, Outbox.receive?, Delivery.sending,
            Delivery.taking, Delivery.answering, hb.1, hb.2, hw]
            using h.taken hw hb.1 hb.2
      · have hb' : (s.now.outbox.received && s.now.inHand.isNone) = false := by
          simpa [Option.isSome_iff_ne_none] using hb
        exact idle (by simp [Delivery.step, hb']) rfl (by simp [Delivery.taking, hb']) rfl
  | publish taken =>
      rcases hh : s.now.inHand with _ | e
      · exact idle (by simp [Delivery.step, hh]) rfl rfl (by simp [Delivery.answering, hh])
      · by_cases hr : s.now.outbox.received = true
        · simpa [Story.step, Delivery.step, Delivery.sending, Delivery.taking, Delivery.answering,
            hh, hr] using h.publish hh taken
        · exact idle (by simp [Delivery.step, hh, hr]) rfl rfl (by simp [Delivery.answering, hr])
  | abandon =>
      simpa [Story.step, Delivery.step, Delivery.sending, Delivery.taking, Delivery.answering]
        using h.abandon

theorem run_cons (s : Story) (m : Delivery.Move) (moves : List Delivery.Move) :
    s.run (m :: moves) = (s.step m).run moves := rfl

/-- Every story is sound, whatever the moves are. -/
theorem sound_run {capacity : Nat} {s : Story} (h : s.Sound capacity)
    (moves : List Delivery.Move) : (s.run moves).Sound capacity := by
  induction moves generalizing s with
  | nil => exact h
  | cons m moves ih => exact ih (h.step m)

/-- A story tells of the delivery that its moves make. -/
theorem now_run (s : Story) (moves : List Delivery.Move) :
    (s.run moves).now = s.now.run moves := by
  induction moves generalizing s with
  | nil => rfl
  | cons m moves ih => exact ih (s.step m)

/-- What those outside can rely on. -/
structure Faithful (capacity : Nat) (s : Story) : Prop where
  /-- What is published is part of what was sent, in this order, and nothing comes twice. -/
  published_sublist : s.now.published.Sublist (s.sent.map (·.event))
  /-- The publisher is asked once for each event that the worker took, in this order. -/
  taken_eq : s.taken = s.answers.map (·.1) ++ s.now.inHand.toList
  /-- Published is what the publisher took; what it refused is not. -/
  published_eq : s.now.published = (s.answers.filter (·.2)).map (·.1)
  delivered_eq : s.now.delivered = s.now.published.length
  /-- When the worker has come to its end there is no sender, nothing waits and nothing is in its
      hand; -/
  nothing_left : s.now.ended = true →
    s.now.senders = 0 ∧ s.now.outbox.waiting = [] ∧ s.now.inHand = none
  /-- there was a receiver at each attempt to send, and the worker has taken all events but those
      that found as many waiting as the queue holds. -/
  taken_in_the_end : s.now.ended = true →
    (∀ x ∈ s.sent, x.received = true ∧ x.waiting ≤ capacity) ∧
      s.taken = (s.sent.filter fun x => x.waiting ≠ capacity).map (·.event)
  /-- Once the last sender has gone the worker comes to its end by itself, whatever the publisher
      answers for the events that are left. -/
  comes_to_end : s.now.senders = 0 → s.now.outbox.received = true →
    ∀ answers : List Bool, answers.length = s.now.left.length →
      (s.run (Delivery.workOff answers)).now.ended = true ∧
        (s.run (Delivery.workOff answers)).now.published
          = s.now.published ++ ((s.now.left.zip answers).filter (·.2)).map (·.1)

theorem accepted_sublist (capacity : Nat) (sent : List Sending) :
    (accepted capacity sent).Sublist (sent.map (·.event)) :=
  List.filter_sublist.map _

/-- Where there was always a receiver, only a full queue loses an event. -/
theorem accepted_eq {capacity : Nat} {sent : List Sending}
    (h : ∀ x ∈ sent, x.received = true ∧ x.waiting ≤ capacity) :
    accepted capacity sent = (sent.filter fun x => x.waiting ≠ capacity).map (·.event) := by
  unfold accepted
  rw [List.filter_congr fun x hx => ?_]
  have hlt : x.waiting < capacity ↔ x.waiting ≠ capacity :=
    ⟨Nat.ne_of_lt, Nat.lt_of_le_of_ne (h x hx).2⟩
  simp only [(h x hx).1, Bool.true_and, hlt]

theorem Sound.published_sublist {capacity : Nat} {s : Story} (h : s.Sound capacity) :
    s.now.published.Sublist (s.sent.map (·.event)) := by
  have htaken : (s.answers.map (·.1)).Sublist s.taken := by
    rw [h.taken_eq]
    exact List.sublist_append_left _ _
  rw [h.published_eq]
  exact (List.filter_sublist.map _).trans
    (htaken.trans (h.taken_prefix.sublist.trans (accepted_sublist capacity s.sent)))

theorem Sound.keepsOrder {capacity : Nat} {s : Story} (h : s.Sound capacity) :
    s.Faithful capacity where
  published_sublist := h.published_sublist
  taken_eq := h.taken_eq
  published_eq := h.published_eq
  delivered_eq := h.delivered_eq
  nothing_left he := by
    have ⟨hr, hs, hh⟩ := h.ended he
    exact ⟨hs, h.gone hr, hh⟩
  taken_in_the_end he := by
    have hsent : ∀ x ∈ s.sent, x.received = true ∧ x.waiting ≤ capacity := fun x hx =>
      ⟨h.attended (.inr he) x hx, h.sent_room x hx⟩
    refine ⟨hsent, ?_⟩
    rw [← accepted_eq hsent, ← h.unlost (.inr he), h.gone (h.ended he).1, List.append_nil]
  comes_to_end hs hr answers hlength := by
    rw [now_run, Delivery.run_workOff hs hr hlength]
    exact ⟨rfl, rfl⟩

/-- A publisher that goes by the event, whatever else happens at the same time: when the worker has
    come to its end, published is what the publisher delivers out of all that the worker took. -/
theorem Sound.published_eq_deliver {capacity : Nat} {s : Story} (h : s.Sound capacity)
    (p : Publisher) (hp : ∀ x ∈ s.answers, x.2 = p.accepts x.1) (he : s.now.ended = true) :
    s.now.published = p.deliver s.taken := by
  have hanswers : s.answers.filter (·.2) = s.answers.filter (p.accepts ·.1) :=
    List.filter_congr hp
  rw [h.published_eq, hanswers, h.taken_eq, (h.ended he).2.2, Option.toList_none, List.append_nil,
    Publisher.deliver, List.filter_map]
  rfl

/-- Whoever moves, and in whatever order. -/
theorem faithful (capacity : Nat) (moves : List Delivery.Move) :
    ((start capacity).run moves).now = (Delivery.start capacity).run moves ∧
      ((start capacity).run moves).Faithful capacity :=
  ⟨now_run _ moves, (sound_run (sound_start capacity) moves).keepsOrder⟩

-- Room for one event: the second one is lost, the first is refused, the third is published.
example :
    let e : Event := ⟨default, .accountFrozen, default, .record [], default⟩
    let s := (start 1).run [.enqueue e, .enqueue e, .receive, .enqueue e, .publish false, .leave,
      .receive, .publish true, .receive]
    (s.now.ended, s.now.delivered, s.sent.map (·.waiting), s.taken.length) =
      (true, 1, [0, 1, 0], 2) := by
  decide

end Story

end BankLedger
