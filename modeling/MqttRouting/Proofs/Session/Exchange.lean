import MqttRouting.Proofs.Session.Actors
import MqttRouting.Proofs.Transport.Correlation

/-!
The exchange of a session. What the worker and the event loop of a session do to its tracker
and its queue of requests is a history as the tracker may see it: so acknowledgements are told
apart in sessions as they are in such histories.
-/

namespace MqttRouting

def Outbound.request? : Outbound → Option Request
  | .subscribe r => some r
  | .disconnect => none

namespace Exchange

variable {e e' e'' : Exchange} {o : Occurrence}

inductive Steps : Exchange → List Occurrence → Exchange → Prop where
  | nil (e : Exchange) : Steps e [] e
  | cons {e e' e'' : Exchange} {o : Occurrence} {rest : List Occurrence} :
      Step e o e' → Steps e' rest e'' → Steps e (o :: rest) e''

theorem Step.single (step : Step e o e') : Steps e [o] e' := .cons step (.nil e')

theorem Run.steps {history more : List Occurrence} (run : Run history e)
    (steps : Steps e more e') : Run (history ++ more) e' := by
  induction steps generalizing history with
  | nil => rwa [List.append_nil]
  | cons step _ ih =>
      rw [List.append_cons]
      exact ih (run.step step)

/-- An exchange is that of a sender, with a request that is tracked and not handed over yet.
Where the event loop is gone, nothing waits for it. -/
structure Follows (e : Exchange) (sender : Sender) (current : Option Request) : Prop where
  tracker : e.tracker = sender.tracker
  offered : e.offered = current
  waiting : sender.attached = true → e.waiting = sender.requests.filterMap Outbound.request?

namespace Follows

variable {sender : Sender} {current : Option Request} {r : Request}

theorem track (h : Follows e sender none) (r : Request) :
    ∃ e', Step e (.offered r) e' ∧ Follows e' (sender.track r) (some r) :=
  ⟨_, .offer r h.offered, congrArg (Tracker.queue · r.wireTopic) h.tracker, rfl, h.waiting⟩

theorem take (h : Follows e sender (some r)) :
    ∃ e', Step e (if sender.attached then .accepted r else .refused r) e' ∧
      Follows e' (sender.take r).2 none := by
  cases attached : sender.attached with
  | true =>
      refine ⟨_, .accept h.offered, ?_⟩
      rw [Sender.take, if_pos attached]
      refine ⟨h.tracker, rfl, fun _ => ?_⟩
      simp [h.waiting attached, Outbound.request?]
  | false =>
      refine ⟨_, .refuse h.offered, ?_⟩
      rw [Sender.take, if_neg (by simp [attached])]
      exact ⟨congrArg Tracker.cancelLast h.tracker, rfl, h.waiting⟩

theorem detach (h : Follows e sender current) : Follows e sender.detach current :=
  ⟨h.tracker, h.offered, nofun⟩

theorem push_disconnect (h : Follows e sender current) :
    Follows e { sender with requests := sender.requests ++ [.disconnect] } current := by
  refine ⟨h.tracker, h.offered, fun attached => ?_⟩
  simp [h.waiting attached, List.filterMap_cons, Outbound.request?]

theorem send (h : Follows e sender current) (attached : sender.attached = true)
    {rest : List Outbound} (oldest : sender.requests = .subscribe r :: rest) (packetId : Nat) :
    ∃ e', Step e (.sent packetId r) e' ∧ Follows e'
      { sender with tracker := (sender.tracker.outgoing packetId).2, requests := rest } current := by
  have waiting : e.waiting = r :: rest.filterMap Outbound.request? := by
    rw [h.waiting attached, oldest]
    rfl
  exact ⟨_, .send packetId waiting,
    congrArg (fun tracker => (Tracker.outgoing tracker packetId).2) h.tracker, h.offered,
    fun _ => rfl⟩

theorem answer (h : Follows e sender current) (ack : SubAck) :
    ∃ e', Step e (.answered ack (sender.tracker.acknowledge ack).1) e' ∧ Follows e'
      { sender with tracker := (sender.tracker.acknowledge ack).2.2 } current := by
  rw [← h.tracker]
  exact ⟨_, .answer e ack, rfl, h.offered, h.waiting⟩

theorem reset (h : Follows e sender current) :
    ∃ e', Step e .reset e' ∧
      Follows e' { sender with tracker := sender.tracker.reset.2 } current :=
  ⟨_, .reset e, congrArg (fun tracker => (Tracker.reset tracker).2) h.tracker, h.offered,
    h.waiting⟩

end Follows

end Exchange

namespace Session

variable {ν : Type} {s t : Session ν} {e : Exchange}

/-- The request that is tracked and not handed over yet. -/
def current? (s : Session ν) : Option Request :=
  match s.stage with
  | .requesting pass => some pass.current
  | .ready | .draining | .ended => none

/-- What a move to another session is for the requests. -/
def occurrences (s t : Session ν) : Move ν → List Occurrence
  | .takeCommand => (t.current?.map .offered).toList
  | .handOver =>
    (s.current?.map fun r => if s.sender.attached then .accepted r else .refused r).toList ++
      (t.current?.map .offered).toList
  | .sendRequest =>
    match s.sender.requests with
    | .subscribe r :: _ => [.sent (s.loop.lastPacketId + 1) r]
    | _ => []
  | .poll =>
    match s.loop.inbound with
    | .connAck false :: _ => [.reset]
    | .subAck ack :: _ => [.answered ack (s.sender.tracker.acknowledge ack).1]
    | _ => []
  | _ => []

def historyOf [Topic.Engine] (s : Session ν) : List (Move ν) → List Occurrence
  | [] => []
  | m :: rest =>
    match s.move? m with
    | some t => s.occurrences t m ++ t.historyOf rest
    | none => []

section Moved

variable (h : e.Follows s.sender s.current?)
include h

theorem follows_takeCommand [Topic.Engine] (moved : s.takeCommand? = some t) :
    ∃ e', Exchange.Steps e (s.occurrences t .takeCommand) e' ∧
      e'.Follows t.sender t.current? := by
  obtain ⟨entry, rest, ready, _, rfl⟩ := takeCommand_inv moved
  rw [current?, ready] at h
  obtain ⟨_, _, _, _, ⟨_, done⟩ | ⟨_, r, _, _, begun⟩⟩ :=
    carryOut_inv (s := { s with commands := rest }) ready entry
  · rw [done]
    exact ⟨e, .nil e, h⟩
  · rw [begun]
    obtain ⟨e', step, follows⟩ := h.track r
    exact ⟨e', step.single, follows⟩

theorem follows_handOver (moved : s.handOver? = some t) :
    ∃ e', Exchange.Steps e (s.occurrences t .handOver) e' ∧ e'.Follows t.sender t.current? := by
  obtain ⟨pass, stage, _, _, _, after⟩ := handOver_inv moved
  have current : s.current? = some pass.current := by
    rw [current?, stage]
  rw [current] at h
  rw [occurrences, current]
  obtain ⟨e', step, follows⟩ := h.take
  obtain ⟨_, rfl⟩ | ⟨_, r, _, _, rfl⟩ := after
  · exact ⟨e', step.single, follows⟩
  · obtain ⟨e'', step', follows'⟩ := follows.track r
    exact ⟨e'', .cons step step'.single, follows'⟩

theorem follows_sendRequest (linked : s.Linked) (moved : s.sendRequest? = some t) :
    ∃ e', Exchange.Steps e (s.occurrences t .sendRequest) e' ∧
      e'.Follows t.sender t.current? := by
  obtain ⟨runs, _, first, rest, _, oldest, sent⟩ := sendRequest_inv moved
  -- an event loop that runs is attached, so the requests are those that wait in the exchange
  have attached : s.sender.attached = true := by
    rw [linked, runs]
    rfl
  rw [occurrences, oldest]
  cases first with
  | subscribe r =>
      obtain ⟨_, _, rfl⟩ := sent
      obtain ⟨e', step, follows⟩ := h.send attached oldest (s.loop.lastPacketId + 1)
      exact ⟨e', step.single, follows⟩
  | disconnect =>
      obtain ⟨_, rfl⟩ := sent
      exact ⟨e, .nil e, h.detach⟩

theorem follows_poll (moved : s.poll? = some t) :
    ∃ e', Exchange.Steps e (s.occurrences t .poll) e' ∧ e'.Follows t.sender t.current? := by
  obtain ⟨_, _, first, _, _, inbound, polled⟩ := poll_inv moved
  rw [occurrences, inbound]
  cases first with
  | connAck sessionPresent =>
      cases polled
      cases sessionPresent with
      | true => exact ⟨e, .nil e, h⟩
      | false =>
          obtain ⟨e', step, follows⟩ := h.reset
          exact ⟨e', step.single, follows⟩
  | publish p =>
      cases polled
      exact ⟨e, .nil e, h⟩
  | subAck ack =>
      cases polled
      obtain ⟨e', step, follows⟩ := h.answer ack
      exact ⟨e', step.single, follows⟩
  | disconnect =>
      cases polled
      exact ⟨e, .nil e, h.detach⟩

theorem follows_passEvent (moved : s.passEvent? = some t) : e.Follows t.sender t.current? := by
  obtain ⟨_, _, ⟨_, _, rfl⟩ | ⟨_, _, rfl⟩⟩ := passEvent_inv moved
  · exact h.detach
  · exact h

theorem follows_outside [Topic.Engine] {m : Move ν} (moved : s.move? m = some t)
    (own : m.actor = .outside) :
    e.Follows t.sender t.current? := by
  have same : t.current? = s.current? := by
    rw [current?, (outside_move_stands moved own).1.stage, current?]
  rw [same]
  obtain ⟨_, same | ⟨_, asked⟩⟩ := outside_queues moved own
  · rwa [same]
  · rw [asked]
    exact h.push_disconnect

theorem follows_leave (ready : s.stage = .ready) (cause : Notice) :
    e.Follows (s.leave cause).sender (s.leave cause).current? := by
  rw [current?, ready] at h
  obtain ⟨_, _, _, _, ⟨rfl, rfl⟩ | ⟨rfl, rfl⟩, left⟩ := leave_inv s cause
  · rw [left]
    exact h
  · rw [left]
    exact h

theorem follows_move [Topic.Engine] (linked : s.Linked) {m : Move ν} (moved : s.move? m = some t) :
    ∃ e', Exchange.Steps e (s.occurrences t m) e' ∧ e'.Follows t.sender t.current? := by
  cases m with
  | takeCommand => exact follows_takeCommand h moved
  | handOver => exact follows_handOver h moved
  | stop =>
      obtain ⟨ready, _, rfl⟩ := stop_inv moved
      exact ⟨e, .nil e, follows_leave h ready _⟩
  | closeCommands =>
      obtain ⟨ready, _, _, _, rfl⟩ := closeCommands_inv moved
      exact ⟨e, .nil e, follows_leave h ready _⟩
  | collect =>
      obtain ⟨_, _, _, rfl⟩ := collect_inv moved
      exact ⟨e, .nil e, h⟩
  | drained =>
      obtain ⟨draining, rfl⟩ := drained_inv moved
      rw [current?, draining] at h
      exact ⟨e, .nil e, h⟩
  | giveUp =>
      obtain ⟨draining, rfl⟩ := giveUp_inv moved
      rw [current?, draining] at h
      exact ⟨e, .nil e, h⟩
  | sendRequest => exact follows_sendRequest h linked moved
  | poll => exact follows_poll h moved
  | passEvent => exact ⟨e, .nil e, follows_passEvent h moved⟩
  | shutdown | disconnect | close | release | arrive _ | add _ _ | dropHandle | permit _ =>
      exact ⟨e, .nil e, follows_outside h moved rfl⟩

end Moved

/-- Every run of a session is a history of its exchange. -/
theorem follows_run [Topic.Engine] {moves : List (Move ν)} {history : List Occurrence}
    (run : Exchange.Run history e) (h : e.Follows s.sender s.current?) (linked : s.Linked)
    (moved : s.run? moves = some t) :
    ∃ e', Exchange.Run (history ++ s.historyOf moves) e' ∧ e'.Follows t.sender t.current? := by
  induction moves generalizing s e history with
  | nil =>
      cases moved
      exact ⟨e, by rwa [historyOf, List.append_nil], h⟩
  | cons m rest ih =>
      obtain ⟨next, first, moved⟩ := Option.bind_eq_some_iff.mp moved
      obtain ⟨e', steps, follows⟩ := follows_move h linked first
      have more := ih (run.steps steps) follows (linked.move first) moved
      rwa [historyOf, first, ← List.append_assoc]

end Session

/-- Whatever happens to a router, as long as no packet id is taken twice at a time: the tracker
has the requests in its queue that wait for the event loop, in order, and behind them the one
that the worker is about to hand over; and for an acknowledgement it finds the request that is
outstanding under the packet id. -/
theorem Router.tracker_of_run [Topic.Engine] {ν : Type} {c : Config}
    {declarations : List (Declaration ν)} {reception : Reception} {s t : Session ν} {moves : List (Session.Move ν)}
    (connected : connect c declarations reception = .ok s) (moved : s.run? moves = some t)
    (fresh : Fresh (s.historyOf moves)) :
    (t.sender.attached = true → t.sender.tracker.queued =
      (t.sender.requests.filterMap Outbound.request? ++ t.current?.toList).map
        Request.wireTopic) ∧
      ∀ packetId wireTopic, t.sender.tracker.inFlight.lookup packetId = some wireTopic ↔
        ∃ place r, Outstanding (s.historyOf moves) place packetId r ∧
          r.wireTopic = wireTopic := by
  obtain ⟨d, sessionPresent, _, _, rfl⟩ := connect_ok connected
  have linked : (start c d sessionPresent).Linked := rfl
  obtain ⟨e, run, follows⟩ := Session.follows_run .start ⟨rfl, rfl, fun _ => rfl⟩ linked moved
  have tracked := run.tracked fresh
  refine ⟨fun attached => ?_, fun packetId wireTopic => ?_⟩
  · rw [← follows.tracker, ← follows.offered, ← follows.waiting attached]
    exact tracked.queued
  · rw [← follows.tracker]
    exact tracked.inFlight packetId wireTopic

end MqttRouting
