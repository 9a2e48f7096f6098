import MqttRouting.Proofs.Dispatcher.History
import MqttRouting.Proofs.Session.Actors

/-!
Deadlocks. The worker waits inside a registration pass where the queue of requests is full,
and the event loop, which alone takes requests, waits with an event where the queue of commands
is full, which the worker alone takes. Neither has anything else to do, so a deadlock lasts.
-/

namespace MqttRouting

variable {ν : Type}

namespace Session

variable {s t u : Session ν}

structure Deadlocked (s : Session ν) : Prop where
  requesting : ∃ pass, s.stage = .requesting pass
  attached : s.sender.attached = true
  requestsFull : s.hasRequestRoom = false
  ended : s.loop.ended = false
  holding : ∃ e, s.loop.held = some e
  commandsFull : s.hasCommandRoom = false

/-! Who waits, and for what. -/

theorem handOver?_none {pass : Underway} (stage : s.stage = .requesting pass) :
    s.handOver? = none ↔ s.sender.attached = true ∧ s.hasRequestRoom = false := by
  simp [handOver?, stage]

theorem sendRequest?_none (runs : s.loop.ended = false) (waiting : s.sender.requests ≠ []) :
    s.sendRequest? = none ↔ ∃ e, s.loop.held = some e := by
  simp only [sendRequest?, Option.map_eq_none_iff, EventLoop.sendRequest?, EventLoop.polling, runs]
  cases held : s.loop.held with
  | some e => simp
  | none =>
      cases requests : s.sender.requests with
      | nil => exact absurd requests waiting
      | cons first rest => cases first <;> simp

theorem poll?_isSome {first : Incoming} {rest : List Incoming} (runs : s.loop.ended = false)
    (free : s.loop.held = none) (arrived : s.loop.inbound = first :: rest) :
    ∃ t, s.poll? = some t := by
  simp only [poll?, EventLoop.poll?, EventLoop.polling, runs, free, arrived]
  cases first <;> exact ⟨_, rfl⟩

theorem passEvent?_none {e : Event} (held : s.loop.held = some e) (works : s.stage ≠ .ended) :
    s.passEvent? = none ↔ s.hasCommandRoom = false := by
  have alive : s.workerEnded = false := by
    rw [← Bool.not_eq_true, workerEnded_iff]
    exact works
  simp [passEvent?, held, alive]

theorem requests_ne_nil (room : 0 < s.limits.requests) (full : s.hasRequestRoom = false) :
    s.sender.requests ≠ [] := by
  intro empty
  simp [hasRequestRoom, empty] at full
  omega

/-! A deadlock lasts. -/

/-- What is reached from a deadlock is the same one. -/
structure Locked (s t : Session ν) : Prop where
  deadlocked : t.Deadlocked
  dispatcher : t.dispatcher = s.dispatcher
  commands : t.commands = s.commands
  requests : t.sender.requests = s.sender.requests

section

variable [Topic.Engine]

theorem Deadlocked.not_worker_move {m : Move ν} (h : s.Deadlocked) (own : m.actor = .worker) :
    s.move? m = none := by
  obtain ⟨⟨pass, stage⟩, attached, full, _⟩ := h
  rw [Option.eq_none_iff_forall_ne_some]
  intro t moved
  obtain ready | draining | ⟨rfl, _⟩ := worker_at_work moved own
  · cases stage.symm.trans ready
  · cases stage.symm.trans draining
  · cases moved.symm.trans ((handOver?_none stage).mpr ⟨attached, full⟩)

theorem Deadlocked.not_loop_move {m : Move ν} (h : s.Deadlocked) (own : m.actor = .eventLoop) :
    s.move? m = none := by
  obtain ⟨⟨pass, stage⟩, _, _, _, ⟨e, held⟩, full⟩ := h
  rw [Option.eq_none_iff_forall_ne_some]
  intro t moved
  cases m with
  | sendRequest =>
      obtain ⟨_, free, _⟩ := sendRequest_inv moved
      cases held.symm.trans free
  | poll =>
      obtain ⟨_, free, _⟩ := poll_inv moved
      cases held.symm.trans free
  | passEvent => cases moved.symm.trans ((passEvent?_none held (by simp [stage])).mpr full)
  | takeCommand | handOver | stop | closeCommands | collect | drained | giveUp => cases own
  | shutdown | disconnect | close | release | arrive _ | add _ _ | dropHandle | permit _ =>
      cases own

theorem Deadlocked.move {m : Move ν} (h : s.Deadlocked) (moved : s.move? m = some t) :
    Locked s t := by
  cases own : m.actor with
  | worker => cases moved.symm.trans (h.not_worker_move own)
  | eventLoop => cases moved.symm.trans (h.not_loop_move own)
  | outside =>
      -- nothing enters a full queue, and who wants to disconnect waits for the worker
      obtain ⟨⟨pass, stage⟩, attached, requestsFull, runs, ⟨e, held⟩, commandsFull⟩ := h
      obtain ⟨worker, loop, _⟩ := outside_move_stands moved own
      obtain ⟨commands | ⟨room, _⟩, sender | ⟨finished, _⟩⟩ := outside_queues moved own
      · have stuck : t.Deadlocked := by
          refine ⟨⟨pass, worker.stage.trans stage⟩, loop.attached.trans attached, ?_,
            loop.ended.trans runs, ⟨e, loop.held.trans held⟩, ?_⟩
          · rw [hasRequestRoom, sender, worker.limits]
            exact requestsFull
          · rw [hasCommandRoom, commands, worker.limits]
            exact commandsFull
        exact ⟨stuck, worker.dispatcher, commands, congrArg Sender.requests sender⟩
      · cases stage.symm.trans finished
      · cases room.symm.trans commandsFull
      · cases stage.symm.trans finished

theorem Deadlocked.forever (h : s.Deadlocked) (further : Reaches s t) : Locked s t := by
  refine further.invariant (P := Locked s) ?_ ⟨h, rfl, rfl, rfl⟩
  intro u v m ⟨still, dispatcher, commands, requests⟩ moved
  obtain ⟨still', dispatcher', commands', requests'⟩ := still.move moved
  exact ⟨still', dispatcher'.trans dispatcher, commands'.trans commands,
    requests'.trans requests⟩

/-! Nobody gets to close a deadlocked session. -/

theorem ended_stays {m : Move ν} (moved : s.move? m = some t) (ended : s.stage = .ended) :
    t.stage = .ended := by
  by_cases own : m.actor = .worker
  · obtain ready | draining | ⟨_, _, requesting⟩ := worker_at_work moved own
    · cases ended.symm.trans ready
    · cases ended.symm.trans draining
    · cases ended.symm.trans requesting
  · exact (worker_stands moved own).stage.trans ended

end

/-- The owner waits for the end of the worker before anything else. -/
def Orderly (s : Session ν) : Prop :=
  s.owner = .disconnecting ∨ s.owner = .closed → s.stage = .ended

theorem Orderly.move [Topic.Engine] {m : Move ν} (h : s.Orderly) (moved : s.move? m = some t) :
    t.Orderly := by
  intro closing
  have kept (owner : t.owner = s.owner) : t.stage = .ended :=
    ended_stays moved (h (owner ▸ closing))
  cases own : m.actor with
  | worker => exact kept (worker_move_stands moved own).2.owner
  | eventLoop => exact kept (loop_move_stands moved own).2.owner
  | outside =>
      cases m with
      | shutdown =>
          obtain ⟨_, _, rfl⟩ := shutdown_inv moved
          simp at closing
      | disconnect =>
          obtain ⟨_, finished, _⟩ := disconnect_inv moved
          exact ended_stays moved finished
      | close =>
          obtain ⟨waits, _⟩ := close_inv moved
          exact ended_stays moved (h (.inl waits))
      | release =>
          obtain ⟨_, _, rfl⟩ := release_inv moved
          simp at closing
      | arrive packet =>
          obtain ⟨_, rfl⟩ := arrive_inv moved
          exact kept rfl
      | add caller declaration =>
          obtain ⟨_, ⟨_, rfl⟩ | ⟨_, _, rfl⟩⟩ := add_inv moved
          · exact kept rfl
          · exact kept rfl
      | dropHandle =>
          obtain ⟨_, rfl⟩ := dropHandle_inv moved
          exact kept rfl
      | permit n =>
          cases moved
          exact kept rfl
      | takeCommand | handOver | stop | closeCommands | collect | drained | giveUp => cases own
      | sendRequest | poll | passEvent => cases own

theorem Deadlocked.not_closed (h : s.Deadlocked) (orderly : s.Orderly) : s.owner ≠ .closed := by
  intro closed
  obtain ⟨pass, stage⟩ := h.requesting
  cases stage.symm.trans (orderly (.inr closed))

end Session
end MqttRouting
