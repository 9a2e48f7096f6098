import Mathlib.Data.List.Induction
import MqttRouting.Proofs.Session.Release
import MqttRouting.Topic.Engine.Sized

/-!
Shutting down. The owner has the worker stopped, and only then asks for the disconnection. Until
that request has left, the event loop goes on with what comes from the broker; an event that it
holds when the worker is gone ends it, and then nothing is sent any more.
-/

namespace MqttRouting

/-- What comes from the broker on a connection that is never interrupted. -/
def Incoming.regular : Incoming → Bool
  | .publish _ | .subAck _ => true
  | .connAck _ | .disconnect => false

namespace Session

variable {ν : Type} {s t u : Session ν}

def Move.healthy : Move ν → Bool
  | .arrive packet => packet.regular
  | _ => true

/-- One session goes on to another while the connection is healthy. -/
def GoesOn [Topic.Engine] (s t : Session ν) : Prop :=
  ∃ moves, (∀ m ∈ moves, m.healthy = true) ∧ s.run? moves = some t

namespace GoesOn

variable [Topic.Engine]

theorem refl (s : Session ν) : GoesOn s s := ⟨[], nofun, rfl⟩

theorem step {m : Move ν} (moved : s.move? m = some t) (healthy : m.healthy = true)
    (h : GoesOn t u) : GoesOn s u := by
  obtain ⟨moves, fine, run⟩ := h
  refine ⟨m :: moves, List.forall_mem_cons.mpr ⟨healthy, fine⟩, ?_⟩
  rw [run?, moved]
  exact run

theorem single {m : Move ν} (moved : s.move? m = some t) (healthy : m.healthy = true) :
    GoesOn s t := (GoesOn.refl t).step moved healthy

theorem trans (h : GoesOn s t) (h' : GoesOn t u) : GoesOn s u := by
  obtain ⟨moves, fine, run⟩ := h
  obtain ⟨moves', fine', run'⟩ := h'
  refine ⟨moves ++ moves', List.forall_mem_append.mpr ⟨fine, fine'⟩, ?_⟩
  rw [run?_append, run]
  exact run'

/-- What every healthy move keeps holds for all that follows. -/
theorem invariant {P : Session ν → Prop}
    (kept : ∀ {s t} m, P s → m.healthy = true → s.move? m = some t → P t)
    (h : GoesOn s t) (first : P s) : P t := by
  obtain ⟨moves, fine, run⟩ := h
  induction moves generalizing s with
  | nil =>
      cases run
      exact first
  | cons m rest ih =>
      obtain ⟨next, moved, run⟩ := Option.bind_eq_some_iff.mp run
      rw [List.forall_mem_cons] at fine
      exact ih (kept m first fine.1 moved) fine.2 run

end GoesOn

/-! What ends the event loop. -/

/-- The request to disconnect leaves. -/
def Departs (s : Session ν) (m : Move ν) : Prop :=
  m = .sendRequest ∧ s.sender.requests.head? = some .disconnect

/-- An event finds the worker gone. -/
def Unheard (s : Session ν) (m : Move ν) : Prop := m = .passEvent ∧ s.stage = .ended

/-- Along the moves an event has found the worker gone. -/
def Overtaken [Topic.Engine] (s : Session ν) (moves : List (Move ν)) : Prop :=
  ∃ front back t, moves = front ++ .passEvent :: back ∧ s.run? front = some t ∧ t.stage = .ended

theorem overtaken_concat [Topic.Engine] {moves : List (Move ν)} (run : s.run? moves = some t)
    (m : Move ν) :
    s.Overtaken (moves ++ [m]) ↔ s.Overtaken moves ∨ t.Unheard m := by
  constructor
  · rintro ⟨front, back, u, parts, run', ended⟩
    cases back using List.reverseRecOn with
    | nil =>
        obtain ⟨rfl, last⟩ := List.append_inj' parts rfl
        cases run.symm.trans run'
        exact .inr ⟨List.singleton_inj.mp last, ended⟩
    | append_singleton back last =>
        rw [← List.cons_append, ← List.append_assoc] at parts
        exact .inl ⟨front, back, u, (List.append_inj' parts rfl).1, run', ended⟩
  · rintro (⟨front, back, u, rfl, run', ended⟩ | ⟨rfl, ended⟩)
    · exact ⟨front, back ++ [m], u, by simp, run', ended⟩
    · exact ⟨moves, [], t, rfl, run, ended⟩

/-- How things stand between the two tasks as long as nothing but the end of the worker can cut
the event loop off. -/
structure Unbroken (s : Session ν) : Prop where
  linked : s.Linked
  regular : ∀ packet ∈ s.loop.inbound, packet.regular = true
  asked : .disconnect ∈ s.sender.requests → s.stage = .ended
  awaited : s.owner = .disconnecting → s.loop.ended = false → .disconnect ∈ s.sender.requests
  sent : .disconnect ∈ s.loop.sent → s.loop.ended = true
  ended : s.loop.ended = true → s.stage = .ended
  free : s.loop.ended = true → s.loop.held = none

/-! One move. -/

theorem sendRequest_sent (h : s.sendRequest? = some t) :
    ∃ o, t.loop.sent = s.loop.sent ++ [o] ∧
      (o = .disconnect ↔ s.sender.requests.head? = some .disconnect) := by
  obtain ⟨⟨notices, loop, sender⟩, sends, rfl⟩ := Option.map_eq_some_iff.mp h
  unfold EventLoop.sendRequest? at sends
  split at sends
  · cases sends
  · cases requests : s.sender.requests with
    | nil => simp [requests] at sends
    | cons first rest =>
        cases first with
        | subscribe r =>
            simp only [requests] at sends
            cases sends
            exact ⟨_, rfl, by simp⟩
        | disconnect =>
            simp only [requests] at sends
            cases sends
            exact ⟨_, rfl, by simp⟩

theorem take_disconnect (sender : Sender) (r : Request) :
    .disconnect ∈ (sender.take r).2.requests ↔ .disconnect ∈ sender.requests := by
  unfold Sender.take
  split
  · simp
  · rfl

theorem leave_loop (s : Session ν) (cause : Notice) :
    (s.leave cause).loop = s.loop ∧ (s.leave cause).sender = s.sender := by
  obtain ⟨_, _, _, _, _, left⟩ := leave_inv s cause
  rw [left]
  exact ⟨rfl, rfl⟩

theorem worker_move_loop [Topic.Engine] {m : Move ν} (h : s.move? m = some t)
    (own : m.actor = .worker) :
    t.loop = s.loop ∧ (.disconnect ∈ t.sender.requests ↔ .disconnect ∈ s.sender.requests) := by
  cases m with
  | takeCommand =>
      obtain ⟨entry, rest, ready, _, rfl⟩ := takeCommand_inv h
      obtain ⟨_, _, _, _, ⟨_, done⟩ | ⟨_, _, _, _, begun⟩⟩ :=
        carryOut_inv (s := { s with commands := rest }) ready entry
      · rw [done]
        exact ⟨rfl, .rfl⟩
      · rw [begun]
        exact ⟨rfl, .rfl⟩
  | handOver =>
      obtain ⟨pass, _, _, _, _, ⟨_, rfl⟩ | ⟨_, _, _, _, rfl⟩⟩ := handOver_inv h
      · exact ⟨rfl, take_disconnect ..⟩
      · exact ⟨rfl, take_disconnect ..⟩
  | stop =>
      obtain ⟨_, _, rfl⟩ := stop_inv h
      obtain ⟨loop, sender⟩ := leave_loop s .stopSignal
      exact ⟨loop, by rw [sender]⟩
  | closeCommands =>
      obtain ⟨_, _, _, _, rfl⟩ := closeCommands_inv h
      obtain ⟨loop, sender⟩ := leave_loop s .commandsClosed
      exact ⟨loop, by rw [sender]⟩
  | collect =>
      obtain ⟨_, _, _, rfl⟩ := collect_inv h
      exact ⟨rfl, .rfl⟩
  | drained =>
      obtain ⟨_, rfl⟩ := drained_inv h
      exact ⟨rfl, .rfl⟩
  | giveUp =>
      obtain ⟨_, rfl⟩ := giveUp_inv h
      exact ⟨rfl, .rfl⟩
  | sendRequest | poll | passEvent => cases own
  | shutdown | disconnect | close | release | arrive _ | add _ _ | dropHandle | permit _ =>
      cases own

namespace Unbroken

theorem worker [Topic.Engine] (h : s.Unbroken) {m : Move ν} (moved : s.move? m = some t)
    (own : m.actor = .worker) : t.Unbroken := by
  obtain ⟨loop, requests⟩ := worker_move_loop moved own
  have owner := (worker_move_stands moved own).2.owner
  refine ⟨h.linked.move moved, ?_, ?_, ?_, ?_, ?_, ?_⟩
  · rw [loop]
    exact h.regular
  · exact fun asked => ended_stays moved (h.asked (requests.mp asked))
  · rw [owner, loop]
    exact fun disconnecting runs => requests.mpr (h.awaited disconnecting runs)
  · rw [loop]
    exact h.sent
  · rw [loop]
    exact fun ending => ended_stays moved (h.ended ending)
  · rw [loop]
    exact h.free

/-- A shutdown asks for the disconnection when the worker has ended. -/
theorem outside [Topic.Engine] (h : s.Unbroken) {m : Move ν} (moved : s.move? m = some t)
    (own : m.actor = .outside) (healthy : m.healthy = true) :
    t.Unbroken ∧ t.loop.ended = s.loop.ended ∧ t.loop.sent = s.loop.sent := by
  have linked := h.linked.move moved
  obtain ⟨_, regular, asked, awaited, sent, ended, free⟩ := h
  cases m with
  | shutdown =>
      obtain ⟨_, _, rfl⟩ := shutdown_inv moved
      exact ⟨⟨linked, regular, asked, nofun, sent, ended, free⟩, rfl, rfl⟩
  | disconnect =>
      obtain ⟨_, finished, _, ⟨gone, rfl⟩ | ⟨_, _, rfl⟩⟩ := disconnect_inv moved
      · refine ⟨⟨linked, regular, asked, fun _ runs => ?_, sent, ended, free⟩, rfl, rfl⟩
        have attached : s.sender.attached = !s.loop.ended := linked
        rw [gone, runs] at attached
        cases attached
      · exact ⟨⟨linked, regular, fun _ => finished, fun _ _ => by simp, sent, ended, free⟩,
          rfl, rfl⟩
  | close =>
      obtain ⟨_, _, _, rfl⟩ := close_inv moved
      exact ⟨⟨linked, regular, asked, nofun, sent, ended, free⟩, rfl, rfl⟩
  | release =>
      obtain ⟨_, _, rfl⟩ := release_inv moved
      exact ⟨⟨linked, regular, asked, nofun, sent, ended, free⟩, rfl, rfl⟩
  | arrive packet =>
      obtain ⟨_, rfl⟩ := arrive_inv moved
      refine ⟨⟨linked, ?_, asked, awaited, sent, ended, free⟩, rfl, rfl⟩
      exact List.forall_mem_append.mpr ⟨regular, List.forall_mem_singleton.mpr healthy⟩
  | add caller declaration =>
      obtain ⟨_, ⟨_, rfl⟩ | ⟨_, _, rfl⟩⟩ := add_inv moved
      · exact ⟨⟨linked, regular, asked, awaited, sent, ended, free⟩, rfl, rfl⟩
      · exact ⟨⟨linked, regular, asked, awaited, sent, ended, free⟩, rfl, rfl⟩
  | dropHandle =>
      obtain ⟨_, rfl⟩ := dropHandle_inv moved
      exact ⟨⟨linked, regular, asked, awaited, sent, ended, free⟩, rfl, rfl⟩
  | permit n =>
      cases moved
      exact ⟨⟨linked, regular, asked, awaited, sent, ended, free⟩, rfl, rfl⟩
  | takeCommand | handOver | stop | closeCommands | collect | drained | giveUp => cases own
  | sendRequest | poll | passEvent => cases own

theorem unsent (h : s.Unbroken) (runs : s.loop.ended = false) : .disconnect ∉ s.loop.sent :=
  fun mem => by cases runs.symm.trans (h.sent mem)

variable [Topic.Engine]

/-- What a move of the event loop does: it ends with the request to disconnect, or with an event
that nobody takes. -/
structure Steps (s : Session ν) (m : Move ν) (t : Session ν) : Prop where
  unbroken : t.Unbroken
  runs : s.loop.ended = false
  ends : t.loop.ended = true ↔ s.Departs m ∨ s.Unheard m
  sends : .disconnect ∈ t.loop.sent ↔ s.Departs m

theorem steps_sendRequest (h : s.Unbroken) (moved : s.sendRequest? = some t) :
    Steps s .sendRequest t := by
  have linked := h.linked.move (m := .sendRequest) moved
  obtain ⟨o, sent, goes⟩ := sendRequest_sent moved
  obtain ⟨runs, free, first, rest, _, requests, same⟩ := sendRequest_inv moved
  have departs : .disconnect ∈ t.loop.sent ↔ s.Departs .sendRequest := by
    rw [sent, List.mem_append, List.mem_singleton, Departs, ← goes]
    simp [h.unsent runs, eq_comm]
  rw [requests, List.head?_cons, Option.some.injEq] at goes
  cases first with
  | subscribe r =>
      obtain ⟨_, _, rfl⟩ := same
      have stays : ¬ s.Departs .sendRequest := fun out => by simp [Departs, requests] at out
      refine ⟨⟨linked, h.regular, fun asked => h.asked ?_, fun disconnecting _ => ?_, ?_, ?_, ?_⟩,
        runs, ?_, departs⟩
      · rw [requests]
        exact List.mem_cons_of_mem _ asked
      · simpa [requests] using h.awaited disconnecting runs
      · exact fun mem => absurd (departs.mp mem) stays
      · exact fun ending => by cases runs.symm.trans ending
      · exact fun ending => by cases runs.symm.trans ending
      · simp [stays, Unheard, runs]
  | disconnect =>
      obtain ⟨_, rfl⟩ := same
      have out : s.Departs .sendRequest := ⟨rfl, by rw [requests]; rfl⟩
      have finished := h.asked (by rw [requests]; exact List.mem_cons_self)
      exact ⟨⟨linked, h.regular, nofun, nofun, fun _ => rfl, fun _ => finished, fun _ => rfl⟩,
        runs, ⟨fun _ => .inl out, fun _ => rfl⟩, departs⟩

theorem steps_poll (h : s.Unbroken) (moved : s.poll? = some t) : Steps s .poll t := by
  have linked := h.linked.move (m := .poll) moved
  obtain ⟨runs, free, first, inbound, _, arrived, same⟩ := poll_inv moved
  have unsent := h.unsent runs
  have regular : first.regular = true ∧ ∀ packet ∈ inbound, packet.regular = true := by
    have all := h.regular
    rw [arrived, List.forall_mem_cons] at all
    exact all
  cases first with
  | publish p =>
      cases same
      refine ⟨⟨linked, regular.2, h.asked, h.awaited, h.sent, h.ended, fun ending => ?_⟩, runs,
        by simp [Departs, Unheard, runs], by simp [Departs, unsent]⟩
      cases runs.symm.trans ending
  | subAck ack =>
      cases same
      refine ⟨⟨linked, regular.2, h.asked, h.awaited, h.sent, h.ended, fun ending => ?_⟩, runs,
        by simp [Departs, Unheard, runs], by simp [Departs, unsent]⟩
      cases runs.symm.trans ending
  | connAck _ | disconnect => cases regular.1

theorem steps_passEvent (h : s.Unbroken) (moved : s.passEvent? = some t) : Steps s .passEvent t := by
  have linked := h.linked.move (m := .passEvent) moved
  obtain ⟨e, held, told⟩ := passEvent_inv moved
  have runs : s.loop.ended = false := by
    rw [← Bool.not_eq_true]
    exact fun ending => by cases held.symm.trans (h.free ending)
  have unsent := h.unsent runs
  obtain ⟨finished, _, rfl⟩ | ⟨works, _, rfl⟩ := told
  · exact ⟨⟨linked, h.regular, nofun, nofun, fun _ => rfl, fun _ => finished, fun _ => rfl⟩,
      runs, by simp [Departs, Unheard, finished], by simp [Departs, unsent]⟩
  · exact ⟨⟨linked, h.regular, h.asked, h.awaited, h.sent, h.ended, fun _ => rfl⟩,
      runs, by simp [Departs, Unheard, works, runs], by simp [Departs, unsent]⟩

theorem eventLoop (h : s.Unbroken) {m : Move ν} (moved : s.move? m = some t)
    (own : m.actor = .eventLoop) : Steps s m t := by
  cases m with
  | sendRequest => exact h.steps_sendRequest moved
  | poll => exact h.steps_poll moved
  | passEvent => exact h.steps_passEvent moved
  | takeCommand | handOver | stop | closeCommands | collect | drained | giveUp => cases own
  | shutdown | disconnect | close | release | arrive _ | add _ _ | dropHandle | permit _ =>
      cases own

theorem move (h : s.Unbroken) {m : Move ν} (moved : s.move? m = some t)
    (healthy : m.healthy = true) :
    t.Unbroken ∧
      (t.loop.ended = true ↔ s.loop.ended = true ∨ s.Departs m ∨ s.Unheard m) ∧
      (.disconnect ∈ t.loop.sent ↔ .disconnect ∈ s.loop.sent ∨ s.Departs m) := by
  have elsewhere (other : m.actor ≠ .eventLoop) : ¬ s.Departs m ∧ ¬ s.Unheard m :=
    ⟨fun out => other (out.1 ▸ rfl), fun out => other (out.1 ▸ rfl)⟩
  cases own : m.actor with
  | worker =>
      obtain ⟨noDeparture, heard⟩ := elsewhere (by simp [own])
      refine ⟨h.worker moved own, ?_, ?_⟩
      · simp [(worker_move_loop moved own).1, noDeparture, heard]
      · simp [(worker_move_loop moved own).1, noDeparture]
  | outside =>
      obtain ⟨noDeparture, heard⟩ := elsewhere (by simp [own])
      obtain ⟨unbroken, ended, sent⟩ := h.outside moved own healthy
      exact ⟨unbroken, by simp [ended, noDeparture, heard], by simp [sent, noDeparture]⟩
  | eventLoop =>
      obtain ⟨unbroken, runs, ended, sent⟩ := h.eventLoop moved own
      have unsent : .disconnect ∉ s.loop.sent := fun mem => by cases runs.symm.trans (h.sent mem)
      exact ⟨unbroken, by simp [ended, runs], by simp [sent, unsent]⟩

/-- Along a run the event loop comes to one of two ends. -/
theorem run (h : s.Unbroken) (runs : s.loop.ended = false) {moves : List (Move ν)}
    (run : s.run? moves = some t) (healthy : ∀ m ∈ moves, m.healthy = true) :
    t.Unbroken ∧ (t.loop.ended = true ↔ .disconnect ∈ t.loop.sent ∨ s.Overtaken moves) ∧
      ¬ (.disconnect ∈ t.loop.sent ∧ s.Overtaken moves) := by
  induction moves using List.reverseRecOn generalizing t with
  | nil =>
      cases run
      have unsent : .disconnect ∉ s.loop.sent := fun mem => by cases runs.symm.trans (h.sent mem)
      have none : ¬ s.Overtaken [] := by simp [Overtaken]
      exact ⟨h, by simp [runs, unsent, none], fun both => none both.2⟩
  | append_singleton front m ih =>
      rw [run?_append] at run
      obtain ⟨u, first, last⟩ := Option.bind_eq_some_iff.mp run
      have moved : u.move? m = some t := by simpa [run?] using last
      rw [List.forall_mem_append, List.forall_mem_singleton] at healthy
      obtain ⟨unbroken, ended, apart⟩ := ih first healthy.1
      obtain ⟨unbroken', ended', sent'⟩ := unbroken.move moved healthy.2
      have once (ending : u.loop.ended = true) : ¬ u.Departs m ∧ ¬ u.Unheard m := by
        constructor
        · rintro ⟨rfl, _⟩
          cases ending.symm.trans (sendRequest_inv moved).1
        · rintro ⟨rfl, _⟩
          obtain ⟨e, held, _⟩ := passEvent_inv moved
          cases held.symm.trans (unbroken.free ending)
      have one : ¬ (u.Departs m ∧ u.Unheard m) := by
        rintro ⟨⟨rfl, _⟩, ⟨other, _⟩⟩
        cases other
      rw [overtaken_concat first, ended', sent', ended, or_or_or_comm]
      refine ⟨unbroken', .rfl, ?_⟩
      rintro ⟨gone | out, before | lost⟩
      · exact apart ⟨gone, before⟩
      · exact (once (ended.mpr (.inl gone))).2 lost
      · exact (once (ended.mpr (.inr before))).1 out
      · exact one ⟨out, lost⟩

end Unbroken

/-! Both ends are in reach. -/

namespace Unbroken

variable [Topic.Engine]

/-- With the worker gone, the event that is held ends the event loop. -/
theorem unheard (h : s.Unbroken) (gone : s.stage = .ended) {e : Event}
    (held : s.loop.held = some e) :
    ∃ t, s.GoesOn t ∧ t.owner = s.owner ∧ t.loop.ended = true ∧ .disconnect ∉ t.loop.sent := by
  obtain ⟨t, passed, ending⟩ := passEvent?_of_ended gone held
  have moved : s.move? .passEvent = some t := passed
  obtain ⟨_, _, _, sent⟩ := h.eventLoop moved rfl
  exact ⟨t, .single moved rfl, (loop_move_stands moved rfl).2.owner, ending,
    fun mem => nomatch (sent.mp mem).1⟩

theorem poll (h : s.Unbroken) (runs : s.loop.ended = false) (free : s.loop.held = none)
    {first : Incoming} {rest : List Incoming} (arrived : s.loop.inbound = first :: rest) :
    ∃ t, s.move? .poll = some t ∧ t.Unbroken ∧ t.stage = s.stage ∧ t.owner = s.owner ∧
      t.loop.ended = false ∧ t.loop.inbound = rest ∧
      ∀ p, first = .publish p → ∃ e, t.loop.held = some e := by
  obtain ⟨t, polled⟩ := poll?_isSome runs free arrived
  have moved : s.move? .poll = some t := polled
  obtain ⟨unbroken, _, ended, _⟩ := h.eventLoop moved rfl
  obtain ⟨stands, outside⟩ := loop_move_stands moved rfl
  refine ⟨t, moved, unbroken, stands.stage, outside.owner, ?_, ?_⟩
  · rw [← Bool.not_eq_true, ended]
    simp [Departs, Unheard]
  · obtain ⟨_, _, _, _, _, arrived', same⟩ := poll_inv polled
    cases arrived.symm.trans arrived'
    cases first <;> cases same <;> simp

/-- If no event is held, one more message is enough. -/
theorem cut_off (h : s.Unbroken) (gone : s.stage = .ended) (runs : s.loop.ended = false) :
    ∃ t, s.GoesOn t ∧ t.owner = s.owner ∧ t.loop.ended = true ∧ .disconnect ∉ t.loop.sent := by
  generalize waiting : s.loop.inbound = inbound
  induction inbound generalizing s with
  | nil =>
      cases held : s.loop.held with
      | some e => exact h.unheard gone held
      | none =>
          let message : Incoming := .publish { topic := "a" }
          have arrives : s.move? (.arrive message) =
              some { s with loop := { s.loop with inbound := s.loop.inbound ++ [message] } } := by
            simp [move?, arrive?, runs]
          obtain ⟨unbroken, _, _⟩ := h.outside arrives rfl rfl
          obtain ⟨t, polled, unbroken, stage, owner, _, _, event⟩ :=
            unbroken.poll runs held (by rw [waiting]; rfl)
          obtain ⟨e, held⟩ := event _ rfl
          obtain ⟨u, further, owner', ending⟩ := unbroken.unheard (stage.trans gone) held
          exact ⟨u, (further.step polled rfl).step arrives rfl, owner'.trans owner, ending⟩
  | cons first rest ih =>
      cases held : s.loop.held with
      | some e => exact h.unheard gone held
      | none =>
          obtain ⟨t, polled, unbroken, stage, owner, runs, waiting, _⟩ := h.poll runs held waiting
          obtain ⟨u, further, owner', ending⟩ := ih unbroken (stage.trans gone) runs waiting
          exact ⟨u, further.step polled rfl, owner'.trans owner, ending⟩

/-- The oldest request leaves. Either it was the one to disconnect, or the loop goes on. -/
theorem send (h : s.Unbroken) (runs : s.loop.ended = false) (free : s.loop.held = none)
    {first : Outbound} {rest : List Outbound} (waiting : s.sender.requests = first :: rest) :
    ∃ t, s.move? .sendRequest = some t ∧ t.Unbroken ∧ WorkerStands s t ∧ t.owner = s.owner ∧
      (t.loop.ended = true ∧ .disconnect ∈ t.loop.sent ∨
        first ≠ .disconnect ∧ t.loop.ended = false ∧ t.loop.held = none ∧
          t.sender.requests = rest) := by
  have sends : s.sendRequest? ≠ none := fun stuck => by
    obtain ⟨e, held⟩ := (sendRequest?_none runs (by simp [waiting])).mp stuck
    cases free.symm.trans held
  obtain ⟨t, sent⟩ := Option.ne_none_iff_exists'.mp sends
  have moved : s.move? .sendRequest = some t := sent
  obtain ⟨unbroken, _, ended, departed⟩ := h.eventLoop moved rfl
  obtain ⟨stands, outside⟩ := loop_move_stands moved rfl
  refine ⟨t, moved, unbroken, stands, outside.owner, ?_⟩
  obtain ⟨_, _, _, _, _, waiting', same⟩ := sendRequest_inv sent
  cases waiting.symm.trans waiting'
  cases first with
  | subscribe r =>
      obtain ⟨_, _, rfl⟩ := same
      exact .inr ⟨nofun, runs, free, rfl⟩
  | disconnect =>
      have departs : s.Departs .sendRequest := ⟨rfl, by rw [waiting]; rfl⟩
      exact .inl ⟨ended.mpr (.inl departs), departed.mpr departs⟩

/-- A request to disconnect leaves in its turn. -/
theorem depart (h : s.Unbroken) (runs : s.loop.ended = false) (free : s.loop.held = none)
    (asked : .disconnect ∈ s.sender.requests) :
    ∃ t, s.GoesOn t ∧ t.owner = s.owner ∧ t.loop.ended = true ∧ .disconnect ∈ t.loop.sent := by
  generalize waiting : s.sender.requests = requests at asked
  induction requests generalizing s with
  | nil => cases asked
  | cons first rest ih =>
      obtain ⟨t, moved, unbroken, _, owner, ending | ⟨other, runs, free, waiting⟩⟩ :=
        h.send runs free waiting
      · exact ⟨t, .single moved rfl, owner, ending⟩
      · have asked : .disconnect ∈ rest := by
          rcases List.mem_cons.mp asked with rfl | asked
          · exact absurd rfl other
          · exact asked
        obtain ⟨u, further, owner', ending⟩ := ih unbroken runs free waiting asked
        exact ⟨u, further.step moved rfl, owner'.trans owner, ending⟩

end Unbroken

/-- The owner asks for the disconnection where there is room, or where it is too late. -/
theorem ask [Topic.Engine] (gone : s.stage = .ended) (stopping : s.owner = .stopping)
    (answered : s.sender.attached = false ∨ s.hasRequestRoom = true) :
    ∃ t, s.move? .disconnect = some t ∧ t.owner = .disconnecting ∧ t.stage = .ended ∧
      t.loop = s.loop := by
  simp only [move?, disconnect?, stopping, workerEnded_iff.mpr gone]
  cases attached : s.sender.attached with
  | false => exact ⟨_, rfl, rfl, gone, rfl⟩
  | true =>
      have room : s.hasRequestRoom = true := by simpa [attached] using answered
      simp only [room]
      exact ⟨_, rfl, rfl, gone, rfl⟩

/-- The owner is shutting the tasks down. -/
def Closing (s : Session ν) : Prop := s.owner = .stopping ∨ s.owner = .disconnecting

namespace Unbroken

variable [Topic.Engine]

theorem ask_and_depart (h : s.Unbroken) (gone : s.stage = .ended) (runs : s.loop.ended = false)
    (free : s.loop.held = none) (stopping : s.owner = .stopping)
    (room : s.hasRequestRoom = true) :
    ∃ t, s.GoesOn t ∧ t.Closing ∧ t.loop.ended = true ∧ .disconnect ∈ t.loop.sent := by
  obtain ⟨t, moved, disconnecting, _, loop⟩ := ask gone stopping (.inr room)
  obtain ⟨unbroken, _, _⟩ := h.outside moved rfl rfl
  rw [← loop] at runs free
  obtain ⟨u, further, owner, ending⟩ :=
    unbroken.depart runs free (unbroken.awaited disconnecting runs)
  exact ⟨u, further.step moved rfl, .inr (owner.trans disconnecting), ending⟩

/-- As long as no event is in the way, the request to disconnect can leave. -/
theorem can_depart (h : s.Unbroken) (gone : s.stage = .ended) (runs : s.loop.ended = false)
    (free : s.loop.held = none) (closing : s.Closing) (capacity : 0 < s.limits.requests) :
    ∃ t, s.GoesOn t ∧ t.Closing ∧ t.loop.ended = true ∧ .disconnect ∈ t.loop.sent := by
  obtain stopping | disconnecting := closing
  · generalize waiting : s.sender.requests = requests
    induction requests generalizing s with
    | nil =>
        have room : s.hasRequestRoom = true := by simpa [hasRequestRoom, waiting] using capacity
        exact h.ask_and_depart gone runs free stopping room
    | cons first rest ih =>
        by_cases room : s.hasRequestRoom = true
        · exact h.ask_and_depart gone runs free stopping room
        · obtain ⟨t, moved, unbroken, stands, owner, ending | ⟨_, runs, free, waiting⟩⟩ :=
            h.send runs free waiting
          · exact ⟨t, .single moved rfl, .inl (owner.trans stopping), ending⟩
          · obtain ⟨u, further, ending⟩ := ih unbroken (stands.stage.trans gone) runs free
              (stands.limits ▸ capacity) (owner.trans stopping) waiting
            exact ⟨u, further.step moved rfl, ending⟩
  · obtain ⟨t, further, owner, ending⟩ := h.depart runs free (h.awaited disconnecting runs)
    exact ⟨t, further, .inr (owner.trans disconnecting), ending⟩

/-- Behind the end of the worker an event that is held is never let go but by the end of the
event loop. -/
theorem held_stays (h : s.Unbroken) (gone : s.stage = .ended) {e : Event}
    (stuck : s.loop.ended = true ∨ s.loop.held = some e) {m : Move ν}
    (moved : s.move? m = some t) :
    ¬ s.Departs m ∧ (t.loop.ended = true ∨ t.loop.held = some e) := by
  have busy (runs : s.loop.ended = false) (free : s.loop.held = none) : False := by
    rcases stuck with ending | held
    · cases runs.symm.trans ending
    · cases free.symm.trans held
  cases own : m.actor with
  | worker | outside =>
      have other : m.actor ≠ .eventLoop := by simp [own]
      have stands := loop_stands moved other
      rw [stands.ended, stands.held]
      exact ⟨fun out => other (out.1 ▸ rfl), stuck⟩
  | eventLoop =>
      cases m with
      | sendRequest =>
          obtain ⟨runs, free, _⟩ := sendRequest_inv moved
          exact (busy runs free).elim
      | poll =>
          obtain ⟨runs, free, _⟩ := poll_inv moved
          exact (busy runs free).elim
      | passEvent =>
          have ending : t.loop.ended = true := (h.eventLoop moved rfl).ends.mpr (.inr ⟨rfl, gone⟩)
          exact ⟨nofun, .inl ending⟩
      | takeCommand | handOver | stop | closeCommands | collect | drained | giveUp => cases own
      | shutdown | disconnect | close | release | arrive _ | add _ _ | dropHandle | permit _ =>
          cases own

theorem never_departs (h : s.Unbroken) (gone : s.stage = .ended) {e : Event}
    (runs : s.loop.ended = false) (held : s.loop.held = some e) (further : s.GoesOn t) :
    .disconnect ∉ t.loop.sent := by
  have unsent : .disconnect ∉ s.loop.sent := fun mem => by cases runs.symm.trans (h.sent mem)
  have stuck : t.Unbroken ∧ t.stage = .ended ∧ (t.loop.ended = true ∨ t.loop.held = some e) ∧
      .disconnect ∉ t.loop.sent := by
    refine further.invariant (P := fun u => u.Unbroken ∧ u.stage = .ended ∧
      (u.loop.ended = true ∨ u.loop.held = some e) ∧ .disconnect ∉ u.loop.sent) ?_
      ⟨h, gone, .inr held, unsent⟩
    intro u v m ⟨unbroken, gone, stuck, unsent⟩ healthy moved
    obtain ⟨unbroken', _, sent⟩ := unbroken.move moved healthy
    obtain ⟨stays, stuck'⟩ := unbroken.held_stays gone stuck moved
    refine ⟨unbroken', ended_stays moved gone, stuck', ?_⟩
    rw [sent]
    exact not_or.mpr ⟨unsent, stays⟩
  exact stuck.2.2.2

/-- Once the event loop has ended, the owner gets through. -/
theorem close_up (h : s.Unbroken) (ending : s.loop.ended = true) (closing : s.Closing) :
    ∃ t, s.GoesOn t ∧ t.owner = .closed ∧ t.loop = s.loop := by
  have gone := h.ended ending
  have close {u : Session ν} (disconnecting : u.owner = .disconnecting) (loop : u.loop = s.loop) :
      ∃ t, u.GoesOn t ∧ t.owner = .closed ∧ t.loop = s.loop := by
    have closes : u.move? .close = some ({ u with owner := .closed }.note [.closed]) := by
      simp [move?, close?, disconnecting, loop, ending]
    exact ⟨_, .single closes rfl, rfl, loop⟩
  obtain stopping | disconnecting := closing
  · have detached : s.sender.attached = false := by
      have linked : s.sender.attached = !s.loop.ended := h.linked
      simpa [ending] using linked
    obtain ⟨u, asked, disconnecting, _, loop⟩ := ask gone stopping (.inl detached)
    obtain ⟨t, further, closed⟩ := close disconnecting loop
    exact ⟨t, further.step asked rfl, closed⟩
  · exact close disconnecting rfl

end Unbroken

section

variable [Topic.Engine]

/-! Connected sessions. -/

theorem connect_unbroken {c : Config} {declarations : List (Declaration ν)}
    {reception : Reception} (connected : Router.connect c declarations reception = .ok s) :
    s.Unbroken ∧ s.loop.ended = false := by
  obtain ⟨d, sessionPresent, _, _, rfl⟩ := Router.connect_ok connected
  exact ⟨⟨rfl, nofun, nofun, nofun, nofun, nofun, nofun⟩, rfl⟩

/-- On a connection that is healthy, an event loop that has ended has either sent the request to
disconnect, or met an event when the worker was gone; never both, and not before the worker has
ended. While the owner shuts the tasks down, the second end is possible as soon as the worker has
ended, whatever else is the case, and the first one as long as no event is held. So the worker of
every router can be stopped in time for a shutdown in which nothing is sent. -/
theorem disconnect_goes_out_iff {c : Config} {declarations : List (Declaration ν)}
    {reception : Reception} {s₀ s : Session ν} {moves : List (Move ν)}
    (connected : Router.connect c declarations reception = .ok s₀)
    (run : s₀.run? moves = some s) (healthy : ∀ m ∈ moves, m.healthy = true) :
    (s.loop.ended = true ↔ .disconnect ∈ s.loop.sent ∨ s₀.Overtaken moves) ∧
    ¬ (.disconnect ∈ s.loop.sent ∧ s₀.Overtaken moves) ∧
    (s.loop.ended = true → s.stage = .ended) ∧
    (s.stage = .ended → s.loop.ended = false → s.Closing →
      (∃ t, s.GoesOn t ∧ t.owner = .closed ∧ .disconnect ∉ t.loop.sent) ∧
      (0 < c.requestCapacity →
        ((∃ t, s.GoesOn t ∧ t.owner = .closed ∧ .disconnect ∈ t.loop.sent) ↔
          s.loop.held = none))) ∧
    ∃ t, s₀.GoesOn t ∧ t.owner = .closed ∧ .disconnect ∉ t.loop.sent := by
  obtain ⟨first, begins⟩ := connect_unbroken connected
  obtain ⟨unbroken, ends, apart⟩ := first.run begins run healthy
  have limits : s.limits = s₀.limits :=
    (Reaches.of_run? run).invariant (P := fun v => v.limits = s₀.limits)
      (fun _ same moved => (move_limits moved).trans same) rfl
  have closes {u v : Session ν} (h : u.Unbroken) (further : u.GoesOn v) (closing : v.Closing)
      (ending : v.loop.ended = true) :
      ∃ t, u.GoesOn t ∧ t.owner = .closed ∧ t.loop = v.loop := by
    have unbroken : v.Unbroken := further.invariant (P := Unbroken)
      (fun _ unbroken healthy moved => (unbroken.move moved healthy).1) h
    obtain ⟨t, rest, closed, loop⟩ := unbroken.close_up ending closing
    exact ⟨t, further.trans rest, closed, loop⟩
  have overtaken {u : Session ν} (h : u.Unbroken) (gone : u.stage = .ended)
      (runs : u.loop.ended = false) (closing : u.Closing) :
      ∃ t, u.GoesOn t ∧ t.owner = .closed ∧ .disconnect ∉ t.loop.sent := by
    obtain ⟨v, further, owner, ending, unsent⟩ := h.cut_off gone runs
    obtain ⟨t, further, closed, loop⟩ := closes h further (by rwa [Closing, owner]) ending
    exact ⟨t, further, closed, loop ▸ unsent⟩
  refine ⟨ends, apart, unbroken.ended, fun gone runs closing => ?_, ?_⟩
  · refine ⟨overtaken unbroken gone runs closing, fun capacity => ⟨?_, fun free => ?_⟩⟩
    · rintro ⟨t, further, _, sent⟩
      cases held : s.loop.held with
      | none => rfl
      | some e => exact absurd sent (unbroken.never_departs gone runs held further)
    · have room : 0 < s.limits.requests := by
        rw [limits, (connect_linked connected).2]
        exact capacity
      obtain ⟨v, further, closing, ending, sent⟩ :=
        unbroken.can_depart gone runs free closing room
      obtain ⟨t, further, closed, loop⟩ := closes unbroken further closing ending
      exact ⟨t, further, closed, loop ▸ sent⟩
  · obtain ⟨d, sessionPresent, _, _, rfl⟩ := Router.connect_ok connected
    obtain ⟨u, stopped, gone, runs, stopping⟩ : ∃ u, (Router.start c d sessionPresent).run?
        [.shutdown, .stop] = some u ∧ u.stage = .ended ∧ u.loop.ended = false ∧
        u.owner = .stopping := ⟨_, rfl, rfl, rfl, rfl⟩
    have leads : (Router.start c d sessionPresent).GoesOn u := ⟨_, by simp [Move.healthy], stopped⟩
    obtain ⟨unbroken, _, _⟩ := first.run rfl stopped (by simp [Move.healthy])
    obtain ⟨t, further, closed, unsent⟩ := overtaken unbroken gone runs (.inl stopping)
    exact ⟨t, leads.trans further, closed, unsent⟩

end

/-- A shutdown with the worker at its end may go either way. -/
theorem both_ends_of_a_shutdown :
    ∃ s₀ s : Session Unit,
      Router.connect (.localhost "app") [] (.answered .success false) = .ok s₀ ∧
      s₀.run? [.takeCommand, .shutdown, .stop] = some s ∧
      (∃ t, s.GoesOn t ∧ t.owner = .closed ∧ .disconnect ∉ t.loop.sent) ∧
      ∃ t, s.GoesOn t ∧ t.owner = .closed ∧ .disconnect ∈ t.loop.sent := by
  refine ⟨_, _, rfl, rfl, ?_⟩
  obtain ⟨_, _, _, ends, _⟩ := disconnect_goes_out_iff
    (show Router.connect (.localhost "app") [] (.answered .success false) = .ok _ from rfl)
    (show run? _ [.takeCommand, .shutdown, .stop] = some _ from rfl)
    (by simp [Move.healthy])
  obtain ⟨overtaken, departs⟩ := ends rfl rfl (.inl rfl)
  exact ⟨overtaken, (departs (by decide)).mpr rfl⟩

/-- A message that comes between the end of the worker and the request to disconnect ends the
event loop. The router is closed, and the broker has been told nothing. -/
theorem shutdown_without_disconnect :
    ∃ s₀ s : Session Unit,
      Router.connect (.localhost "app") [] (.answered .success false) = .ok s₀ ∧
      s₀.run? [.takeCommand, .shutdown, .stop, .arrive (.publish { topic := "a" }), .poll,
        .passEvent, .disconnect, .close] = some s ∧
      s.owner = .closed ∧ s.loop.ended = true ∧ s.loop.sent = [] :=
  ⟨_, _, rfl, rfl, rfl, rfl, rfl⟩

end Session
end MqttRouting
