import Mathlib.Logic.ExistsUnique
import MqttRouting.Transport.Tracker

/-!
Which request an acknowledgement answers. The tracker sees neither the queue of the client
nor the broker. It learns that a request is offered, that the client refuses the latest one,
that the oldest one leaves with a packet id, that an acknowledgement comes, and that a
session is lost. Here all of these come in any order, beside a queue that is what it is, and
the history tells which requests are outstanding. The tracker knows exactly those.
-/

namespace MqttRouting

inductive Occurrence where
  /-- Tracked, and not in the queue of the client yet. -/
  | offered (r : Request)
  | accepted (r : Request)
  | refused (r : Request)
  | sent (packetId : Nat) (r : Request)
  /-- An acknowledgement has come, and the tracker has found this for it. -/
  | answered (ack : SubAck) (result : Option (String × Bool))
  /-- A connection without the old session. -/
  | reset

namespace Occurrence

def accepted? : Occurrence → Option Request
  | .accepted r => some r
  | .offered _ | .refused _ | .sent _ _ | .answered _ _ | .reset => none

def sent? : Occurrence → Option Request
  | .sent _ r => some r
  | .offered _ | .accepted _ | .refused _ | .answered _ _ | .reset => none

/-- Behind this no request waits for an acknowledgement with the packet id. -/
def Closes (packetId : Nat) : Occurrence → Prop
  | .reset => True
  | .answered ack _ => ack.packetId = packetId
  | .offered _ | .accepted _ | .refused _ | .sent _ _ => False

end Occurrence

/-- A tracker beside the queue of a client. -/
structure Exchange where
  tracker : Tracker := {}
  /-- The queue of the client, oldest first. -/
  waiting : List Request := []
  offered : Option Request := none

namespace Exchange

inductive Step : Exchange → Occurrence → Exchange → Prop where
  | offer {e : Exchange} (r : Request) : e.offered = none →
      Step e (.offered r) { e with tracker := e.tracker.queue r.wireTopic, offered := some r }
  | accept {e : Exchange} {r : Request} : e.offered = some r →
      Step e (.accepted r) { e with waiting := e.waiting ++ [r], offered := none }
  | refuse {e : Exchange} {r : Request} : e.offered = some r →
      Step e (.refused r) { e with tracker := e.tracker.cancelLast, offered := none }
  | send {e : Exchange} {r : Request} {rest : List Request} (packetId : Nat) :
      e.waiting = r :: rest →
      Step e (.sent packetId r)
        { e with tracker := (e.tracker.outgoing packetId).2, waiting := rest }
  | answer (e : Exchange) (ack : SubAck) :
      Step e (.answered ack (e.tracker.acknowledge ack).1)
        { e with tracker := (e.tracker.acknowledge ack).2.2 }
  | reset (e : Exchange) : Step e .reset { e with tracker := e.tracker.reset.2 }

/-- All that can have happened, and what it has led to. -/
inductive Run : List Occurrence → Exchange → Prop where
  | start : Run [] {}
  | step {history : List Occurrence} {e e' : Exchange} {o : Occurrence} :
      Run history e → Step e o e' → Run (history ++ [o]) e'

end Exchange

/-! Histories. -/

/-- The request that was sent at a place in a history still waits for its acknowledgement. -/
structure Outstanding (history : List Occurrence) (place packetId : Nat) (r : Request) :
    Prop where
  sent : history[place]? = some (.sent packetId r)
  unanswered : ∀ later o, place < later → history[later]? = some o → ¬ o.Closes packetId

/-- No packet id is taken for a request while another one is outstanding under it. -/
def Fresh (history : List Occurrence) : Prop :=
  ∀ place packetId r, history[place]? = some (.sent packetId r) →
    ∀ earlier other, ¬ Outstanding (history.take place) earlier packetId other

/-- The answer at the later place belongs to the request that was sent at the first one. -/
def Resolves (history : List Occurrence) (place later : Nat) : Prop :=
  ∃ ack r, history[later]? = some (.answered ack (some (r.wireTopic, ack.success))) ∧
    Outstanding (history.take later) place ack.packetId r

section History

private theorem getElem?_snoc {α : Type} {l : List α} {a b : α} {i : Nat} :
    (l ++ [a])[i]? = some b ↔ l[i]? = some b ∨ i = l.length ∧ a = b := by
  grind

variable {history : List Occurrence} {o : Occurrence} {place packetId : Nat} {r : Request}

theorem Outstanding.lt_length (h : Outstanding history place packetId r) :
    place < history.length :=
  (List.getElem?_eq_some_iff.mp h.sent).1

theorem Outstanding.lt_take {n : Nat} (h : Outstanding (history.take n) place packetId r) :
    place < n := by
  have less := h.lt_length
  rw [List.length_take] at less
  omega

theorem Outstanding.take (h : Outstanding history place packetId r) {n : Nat}
    (less : place < n) : Outstanding (history.take n) place packetId r := by
  refine ⟨by rw [List.getElem?_take_of_lt less, h.sent], fun later o behind found => ?_⟩
  rw [List.getElem?_take] at found
  split at found
  · exact h.unanswered later o behind found
  · cases found

theorem outstanding_snoc : Outstanding (history ++ [o]) place packetId r ↔
    Outstanding history place packetId r ∧ ¬ o.Closes packetId ∨
      place = history.length ∧ o = .sent packetId r := by
  constructor
  · rintro ⟨sent, unanswered⟩
    rcases getElem?_snoc.mp sent with sent | last
    · have less := (List.getElem?_eq_some_iff.mp sent).1
      refine .inl ⟨⟨sent, fun later o' behind found => ?_⟩, ?_⟩
      · exact unanswered later o' behind (getElem?_snoc.mpr (.inl found))
      · exact unanswered history.length o less (getElem?_snoc.mpr (.inr ⟨rfl, rfl⟩))
    · exact .inr last
  · rintro (⟨⟨sent, unanswered⟩, stays⟩ | last)
    · refine ⟨getElem?_snoc.mpr (.inl sent), fun later o' behind found => ?_⟩
      rcases getElem?_snoc.mp found with found | ⟨_, rfl⟩
      · exact unanswered later o' behind found
      · exact stays
    · refine ⟨getElem?_snoc.mpr (.inr last), fun later o' behind found => ?_⟩
      have short := (List.getElem?_eq_some_iff.mp found).1
      rw [List.length_append, List.length_singleton, ← last.1] at short
      omega

theorem Fresh.take (h : Fresh history) (n : Nat) : Fresh (history.take n) := by
  intro place packetId r found earlier other
  rw [List.getElem?_take] at found
  split at found
  · rw [List.take_take, Nat.min_eq_left (by omega)]
    exact h place packetId r found earlier other
  · cases found

theorem Fresh.of_snoc (h : Fresh (history ++ [o])) : Fresh history := by
  simpa using h.take history.length

theorem Fresh.snoc (h : Fresh history) (new : ∀ packetId r, o = .sent packetId r →
    ∀ earlier other, ¬ Outstanding history earlier packetId other) : Fresh (history ++ [o]) := by
  intro place packetId r found earlier other
  rcases getElem?_snoc.mp found with found | ⟨rfl, sent⟩
  · have less := (List.getElem?_eq_some_iff.mp found).1
    rw [List.take_append_of_le_length (Nat.le_of_lt less)]
    exact h place packetId r found earlier other
  · rw [List.take_left]
    exact new packetId r sent earlier other

theorem Fresh.unique (fresh : Fresh history) {place' : Nat} {r' : Request}
    (h : Outstanding history place packetId r) (h' : Outstanding history place' packetId r') :
    place = place' := by
  rcases Nat.lt_trichotomy place place' with less | same | less
  · exact absurd (h.take less) (fresh place' packetId r' h'.sent place r)
  · exact same
  · exact absurd (h'.take less) (fresh place packetId r h.sent place' r')

end History

namespace Exchange

/-! What the tracker knows. -/

/-- The tracker and the queue of the client are in step with a history. -/
structure Tracked (history : List Occurrence) (e : Exchange) : Prop where
  queued : e.tracker.queued = (e.waiting ++ e.offered.toList).map Request.wireTopic
  order : history.filterMap Occurrence.accepted? =
    history.filterMap Occurrence.sent? ++ e.waiting
  inFlight : ∀ packetId wireTopic, e.tracker.inFlight.lookup packetId = some wireTopic ↔
    ∃ place r, Outstanding history place packetId r ∧ r.wireTopic = wireTopic

private theorem lookup_filter_ne {β : Type} (l : List (Nat × β)) (key other : Nat) :
    (l.filter (·.1 ≠ key)).lookup other = if other = key then none else l.lookup other := by
  induction l with
  | nil => simp
  | cons entry rest ih => grind

variable {history : List Occurrence} {e e' : Exchange} {o : Occurrence}

private theorem outstanding_same (quiet : ∀ packetId, ¬ o.Closes packetId)
    (kept : ∀ packetId r, o ≠ .sent packetId r) (packetId : Nat) (wireTopic : String) :
    (∃ place r, Outstanding (history ++ [o]) place packetId r ∧ r.wireTopic = wireTopic) ↔
      ∃ place r, Outstanding history place packetId r ∧ r.wireTopic = wireTopic := by
  simp [outstanding_snoc, quiet, kept]

private theorem order_same {waiting : List Request} (taken : o.accepted? = none)
    (left : o.sent? = none) (order : history.filterMap Occurrence.accepted? =
      history.filterMap Occurrence.sent? ++ waiting) :
    (history ++ [o]).filterMap Occurrence.accepted? =
      (history ++ [o]).filterMap Occurrence.sent? ++ waiting := by
  simp [taken, left, order]

theorem Tracked.step (h : Tracked history e) (step : Step e o e') (fresh : Fresh (history ++ [o])) :
    Tracked (history ++ [o]) e' := by
  obtain ⟨queued, order, inFlight⟩ := h
  cases step with
  | offer r idle =>
      refine ⟨?_, order_same rfl rfl order, ?_⟩
      · simp [Tracker.queue, queued, idle]
      · intro packetId wireTopic
        rw [outstanding_same (by simp [Occurrence.Closes]) (by simp)]
        exact inFlight packetId wireTopic
  | accept offered =>
      refine ⟨?_, ?_, ?_⟩
      · simp [queued, offered]
      · simp [Occurrence.accepted?, Occurrence.sent?, order]
      · intro packetId wireTopic
        rw [outstanding_same (by simp [Occurrence.Closes]) (by simp)]
        exact inFlight packetId wireTopic
  | refuse offered =>
      refine ⟨?_, order_same rfl rfl order, ?_⟩
      · simp [Tracker.cancelLast, queued, offered]
      · intro packetId wireTopic
        rw [outstanding_same (by simp [Occurrence.Closes]) (by simp)]
        exact inFlight packetId wireTopic
  | @send r rest packetId oldest =>
      rw [oldest, List.cons_append, List.map_cons] at queued
      have left : (e.tracker.outgoing packetId).2 = ⟨(rest ++ e.offered.toList).map
          Request.wireTopic, (packetId, r.wireTopic) ::
            e.tracker.inFlight.filter (·.1 ≠ packetId)⟩ := by
        rw [Tracker.outgoing, queued]
      refine ⟨by rw [left], by simp [List.filterMap_cons, Occurrence.accepted?,
        Occurrence.sent?, order, oldest], ?_⟩
      intro other wireTopic
      by_cases same : other = packetId
      · subst same
        -- whatever was under this packet id has been closed, so the new entry hides nothing
        have unused := fresh history.length other r List.getElem?_concat_length
        rw [List.take_left] at unused
        simp [left, outstanding_snoc, unused, and_assoc]
      · rw [left, List.lookup_cons, beq_false_of_ne same, lookup_filter_ne, if_neg same, inFlight]
        simp [outstanding_snoc, Occurrence.Closes, Ne.symm same]
  | answer ack =>
      have untouched : (e.tracker.acknowledge ack).2.2.queued = e.tracker.queued := by
        unfold Tracker.acknowledge
        split <;> rfl
      have others (packetId : Nat) : (e.tracker.acknowledge ack).2.2.inFlight.lookup packetId =
          if packetId = ack.packetId then none else e.tracker.inFlight.lookup packetId := by
        unfold Tracker.acknowledge
        split
        · rename_i unknown
          split
          · subst packetId
            exact unknown
          · rfl
        · exact lookup_filter_ne _ _ _
      refine ⟨untouched.trans queued, order_same rfl rfl order, ?_⟩
      intro packetId wireTopic
      rw [others]
      by_cases same : packetId = ack.packetId
      · simp [same, outstanding_snoc, Occurrence.Closes]
      · rw [if_neg same, inFlight]
        simp [outstanding_snoc, Occurrence.Closes, Ne.symm same]
  | reset =>
      refine ⟨queued, order_same rfl rfl order, ?_⟩
      intro packetId wireTopic
      simp [Tracker.reset, outstanding_snoc, Occurrence.Closes]

namespace Run

theorem tracked (run : Run history e) (fresh : Fresh history) : Tracked history e := by
  induction run with
  | start =>
      refine ⟨rfl, rfl, fun packetId wireTopic => ⟨nofun, ?_⟩⟩
      rintro ⟨place, r, outstanding, _⟩
      cases outstanding.lt_length
  | step _ step ih => exact (ih fresh.of_snoc).step step fresh

/-- A packet id that the tracker does not know is free to be taken. -/
theorem snoc_fresh (h : Run history e ∧ Fresh history) (step : Step e o e')
    (unused : ∀ packetId r, o = .sent packetId r → e.tracker.inFlight.lookup packetId = none) :
    Run (history ++ [o]) e' ∧ Fresh (history ++ [o]) := by
  obtain ⟨run, fresh⟩ := h
  refine ⟨run.step step, fresh.snoc fun packetId r sent earlier other outstanding => ?_⟩
  have known := ((run.tracked fresh).inFlight packetId _).mpr ⟨earlier, other, outstanding, rfl⟩
  cases (unused packetId r sent).symm.trans known

theorem take (run : Run history e) {n : Nat} (found : history[n]? = some o) :
    ∃ before behind, Run (history.take n) before ∧ Step before o behind := by
  induction run with
  | start => cases found
  | @step history e e' last run step ih =>
      rcases getElem?_snoc.mp found with found | ⟨rfl, rfl⟩
      · have less := (List.getElem?_eq_some_iff.mp found).1
        rw [List.take_append_of_le_length (Nat.le_of_lt less)]
        exact ih found
      · exact ⟨e, e', by rwa [List.take_left], step⟩

/-- What the tracker finds for an acknowledgement is the request outstanding under its
packet id. -/
theorem answered (run : Run history e) (fresh : Fresh history) {later : Nat} {ack : SubAck}
    {result : Option (String × Bool)} (found : history[later]? = some (.answered ack result))
    (wireTopic : String) (success : Bool) : result = some (wireTopic, success) ↔
      success = ack.success ∧
        ∃ place r, Outstanding (history.take later) place ack.packetId r ∧
          r.wireTopic = wireTopic := by
  obtain ⟨before, behind, run, step⟩ := run.take found
  have known := (run.tracked (fresh.take later)).inFlight ack.packetId wireTopic
  cases step
  rw [← known, Tracker.acknowledge]
  cases before.tracker.inFlight.lookup ack.packetId with
  | none => simp
  | some wireTopic' => simp [and_comm, eq_comm]

theorem resolves_unique (run : Run history e) (fresh : Fresh history) {later : Nat}
    {ack : SubAck} {wireTopic : String} {success : Bool}
    (found : history[later]? = some (.answered ack (some (wireTopic, success)))) :
    ∃! place, Resolves history place later := by
  obtain ⟨rfl, place, r, outstanding, rfl⟩ :=
    (run.answered fresh found wireTopic success).mp rfl
  refine ⟨place, ⟨ack, r, found, outstanding⟩, ?_⟩
  rintro place' ⟨ack', r', found', outstanding'⟩
  rw [found, Option.some.injEq, Occurrence.answered.injEq] at found'
  rw [← found'.1] at outstanding'
  exact (fresh.take later).unique outstanding' outstanding

end Run

end Exchange

namespace Resolves

variable {history : List Occurrence} {place later later' : Nat}

/-- A request that has been answered is not outstanding any more. -/
theorem not_answered_again (h : Resolves history place later)
    (h' : Resolves history place later') : ¬ later < later' := by
  intro less
  obtain ⟨ack, r, found, outstanding⟩ := h
  obtain ⟨ack', r', _, outstanding'⟩ := h'
  have sent : history[place]? = some (.sent ack.packetId r) := by
    rw [← List.getElem?_take_of_lt outstanding.lt_take, outstanding.sent]
  have sent' : history[place]? = some (.sent ack'.packetId r') := by
    rw [← List.getElem?_take_of_lt outstanding'.lt_take, outstanding'.sent]
  rw [sent, Option.some.injEq, Occurrence.sent.injEq] at sent'
  have again : (history.take later')[later]? = _ := (List.getElem?_take_of_lt less).trans found
  exact outstanding'.unanswered later _ outstanding.lt_take again sent'.1

theorem unique (h : Resolves history place later) (h' : Resolves history place later') :
    later = later' := by
  have := h.not_answered_again h'
  have := h'.not_answered_again h
  omega

end Resolves

namespace Exchange

/-- In every order of events, as long as no packet id is taken twice at a time: the requests
that the tracker has queued are those that have not left, in order; what it finds for an
acknowledgement is the request that is outstanding under the packet id, and nothing if there
is none; and each answer belongs to one request, no two of them to the same. -/
theorem Run.answers_match_requests {history : List Occurrence} {e : Exchange}
    (run : Run history e) (fresh : Fresh history) :
    e.tracker.queued = (e.waiting ++ e.offered.toList).map Request.wireTopic ∧
    history.filterMap Occurrence.accepted? =
      history.filterMap Occurrence.sent? ++ e.waiting ∧
    (∀ later ack result, history[later]? = some (.answered ack result) →
      (∀ wireTopic success, result = some (wireTopic, success) ↔ success = ack.success ∧
        ∃ place r, Outstanding (history.take later) place ack.packetId r ∧
          r.wireTopic = wireTopic) ∧
      ((∀ place r, ¬ Outstanding (history.take later) place ack.packetId r) → result = none) ∧
      (result ≠ none → ∃! place, Resolves history place later)) ∧
    ∀ place later later', Resolves history place later → Resolves history place later' →
      later = later' := by
  have tracked := run.tracked fresh
  refine ⟨tracked.queued, tracked.order, fun later ack result found => ⟨?_, ?_, ?_⟩,
    fun place later later' => Resolves.unique⟩
  · exact run.answered fresh found
  · intro lost
    cases result with
    | none => rfl
    | some answer =>
        obtain ⟨_, place, r, outstanding, _⟩ := (run.answered fresh found _ _).mp rfl
        exact absurd outstanding (lost place r)
  · intro resolved
    obtain ⟨⟨wireTopic, success⟩, rfl⟩ := Option.ne_none_iff_exists'.mp resolved
    exact run.resolves_unique fresh found

/-- The session is lost before the first request is answered and before the second one leaves,
with the same packet id; a third one is refused meanwhile. The answer is that of the second
request, and a repeated one belongs to none. -/
theorem answers_around_a_lost_session :
    ∃ (a b c : Request) (ack : SubAck) (e : Exchange),
      let history : List Occurrence := [.offered a, .accepted a, .sent 1 a, .offered b,
        .accepted b, .reset, .offered c, .sent 1 b, .refused c,
        .answered ack (some (b.wireTopic, true)), .answered ack none]
      Run history e ∧ Fresh history ∧ e.tracker.queued = [] ∧
        (∃! place, Resolves history place 9) ∧
        ∀ place r, ¬ Outstanding (history.take 10) place 1 r := by
  let a : Request := ⟨"a", .atMostOnce⟩
  let b : Request := ⟨"b", .atMostOnce⟩
  let c : Request := ⟨"c", .atMostOnce⟩
  let ack : SubAck := ⟨1, [.granted .atMostOnce]⟩
  have begun : Run [] {} ∧ Fresh [] := ⟨.start, nofun⟩
  have first := Run.snoc_fresh (Run.snoc_fresh (Run.snoc_fresh begun (.offer a rfl) (by simp))
    (.accept rfl) (by simp)) (.send 1 rfl) (by rintro _ _ ⟨⟩; rfl)
  have second := Run.snoc_fresh (Run.snoc_fresh first (.offer b rfl) (by simp))
    (.accept rfl) (by simp)
  have lost := Run.snoc_fresh (Run.snoc_fresh second (.reset _) (by simp)) (.offer c rfl) (by simp)
  have left := Run.snoc_fresh (Run.snoc_fresh lost (.send 1 rfl) (by rintro _ _ ⟨⟩; rfl))
    (.refuse rfl) (by simp)
  obtain ⟨run, fresh⟩ := Run.snoc_fresh (Run.snoc_fresh left (.answer _ ack) (by simp))
    (.answer _ ack) (by simp)
  obtain ⟨queued, _, answers, _⟩ := run.answers_match_requests fresh
  have answered := (answers 9 ack (some (b.wireTopic, true)) rfl).2.2 nofun
  refine ⟨a, b, c, ack, _, run, fresh, queued, answered, fun place r outstanding => ?_⟩
  have resolved := ((answers 10 ack none rfl).1 r.wireTopic ack.success).mpr
    ⟨rfl, place, r, outstanding, rfl⟩
  cases resolved

end Exchange

end MqttRouting
