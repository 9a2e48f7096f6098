import MqttRouting.Proofs.Dispatcher.Subscribing
import MqttRouting.Proofs.Session.Deadlock

/-!
For which routers a deadlock is in reach. The queue of requests has to take a whole
registration pass while the event loop is busy with something else; so it depends on how many
wire topics there are, and on whether they are asked for again.
-/

namespace MqttRouting

variable {ν : Type}

namespace Dispatcher

/-! How much a pass asks for. -/

theorem connected_requests (d : Dispatcher ν) (sessionPresent : Bool) :
    d.registry.entries.length ≤ (d.connected sessionPresent).2.2.registry.entries.length ∧
      (d.connected sessionPresent).1.requests.length ≤
        (d.connected sessionPresent).2.2.registry.entries.length ∧
      (d.settings.resubscribeOnSessionLoss = false →
        (d.connected sessionPresent).1.requests.length + d.registry.entries.length =
          (d.connected sessionPresent).2.2.registry.entries.length) := by
  have grown := congrArg List.length (Registry.registerAll_entries d.registry d.compiled)
  rw [List.length_append] at grown
  simp only [connected, List.length_map]
  refine ⟨by omega, ?_, fun never => ?_⟩
  · split
    · exact Nat.le_refl _
    · omega
  · rw [never, Bool.and_false, if_neg Bool.false_ne_true]
    omega

variable [Topic.Engine]

theorem compile_registry (d : Dispatcher ν) (declaration : Declaration ν) :
    (d.compile declaration).2.registry = d.registry := by
  unfold compile
  split <;> rfl

theorem add_requests (d : Dispatcher ν) (declaration : Declaration ν) :
    d.registry.entries.length ≤ (d.add declaration).2.registry.entries.length ∧
      ∀ pass, (d.add declaration).1 = .ok pass → pass.requests.length + d.registry.entries.length =
        (d.add declaration).2.registry.entries.length := by
  have kept := d.compile_registry declaration
  unfold add
  cases outcome : d.compile declaration with
  | mk answer d' =>
      rw [outcome] at kept
      cases answer with
      | error e => simp [← kept]
      | ok subscribers =>
          cases stage : d'.lifecycle with
          | idle => simp [← kept, stage]
          | active =>
              have grown :=
                congrArg List.length (Registry.registerAll_entries d'.registry subscribers)
              rw [List.length_append] at grown
              simp only [stage, ← kept, Except.ok.injEq, forall_eq', List.length_map]
              omega

/-- A pass asks for what it registers, unless everything is asked for again. -/
theorem step_requests (d : Dispatcher ν) (command : Command ν) :
    d.registry.entries.length ≤ (d.step command).2.2.registry.entries.length ∧
      (d.step command).1.requests.length ≤ (d.step command).2.2.registry.entries.length ∧
      (d.settings.resubscribeOnSessionLoss = false →
        (d.step command).1.requests.length + d.registry.entries.length ≤
          (d.step command).2.2.registry.entries.length) := by
  cases command with
  | event e =>
      cases e with
      | connected sessionPresent =>
          obtain ⟨grown, few, fresh⟩ := d.connected_requests sessionPresent
          exact ⟨grown, few, fun never => Nat.le_of_eq (fresh never)⟩
      | message m =>
          rw [step]
          split <;> simp [Effect.requests]
      | subscribeResult wireTopic success => simp [step, Effect.requests]
  | add declaration =>
      obtain ⟨grown, fresh⟩ := d.add_requests declaration
      rw [step]
      cases outcome : d.add declaration with
      | mk answer d' =>
          rw [outcome] at grown fresh
          cases answer with
          | error e => exact ⟨grown, Nat.zero_le _, fun _ => (Nat.zero_add _).symm ▸ grown⟩
          | ok pass =>
              have same : pass.requests.length + d.registry.entries.length =
                d'.registry.entries.length := fresh pass rfl
              have few : pass.requests.length ≤ d'.registry.entries.length := by omega
              exact ⟨grown, few, fun _ => Nat.le_of_eq same⟩

namespace Reflects

theorem entries_le {origin d : Dispatcher ν} {history : List (Command ν)}
    (h : Reflects origin history d) :
    d.registry.entries.length ≤ (Subscriber.distinct d.compiled).length := by
  rw [h.registry]
  split
  · exact Nat.le_of_eq (congrArg List.length (Registry.ofList_entries d.compiled))
  · exact Nat.zero_le _

end Reflects
end Dispatcher

namespace Session

variable {s t u : Session ν} {origin : Dispatcher ν}

/-! How many requests may be about at a time. -/

/-- The requests of a pass that are not in the queue yet. -/
def underway (s : Session ν) : Nat :=
  match s.stage with
  | .requesting pass => pass.rest.length + 1
  | .ready | .draining | .ended => 0

theorem take_requests_le (sender : Sender) (r : Request) :
    (sender.take r).2.requests.length ≤ sender.requests.length + 1 := by
  unfold Sender.take
  split
  · simp
  · exact Nat.le_succ _

variable [Topic.Engine]

/-- Unless the session is lost, no wire topic is asked for twice: all requests about belong to
different entries of the registry. -/
structure Budgeted (origin : Dispatcher ν) (s : Session ν) : Prop where
  reflects : ∃ history, Dispatcher.Reflects origin history s.dispatcher
  registered : s.underway ≠ 0 → 0 < s.dispatcher.registry.entries.length
  budget : s.InLoop → origin.settings.resubscribeOnSessionLoss = false →
    s.sender.requests.length + s.underway ≤ s.dispatcher.registry.entries.length

theorem carryOut_budgeted (h : Budgeted origin s) (ready : s.stage = .ready) (entry : Entry ν) :
    Budgeted origin (s.carryOut entry) := by
  obtain ⟨⟨history, reflects⟩, _, budget⟩ := h
  obtain ⟨grown, few, fresh⟩ := s.dispatcher.step_requests entry.command
  have reflects' := reflects.step entry.command
  rw [reflects.settings] at fresh
  have idle : s.underway = 0 := by simp [underway, ready]
  obtain ⟨_, _, _, _, ⟨_, done⟩ | ⟨_, r, more, requests, begun⟩⟩ := carryOut_inv ready entry
  · rw [done]
    refine ⟨⟨_, reflects'⟩, fun busy => absurd rfl busy, fun _ never => ?_⟩
    have before := budget (.inl ready) never
    change s.sender.requests.length + 0 ≤
      (s.dispatcher.step entry.command).2.2.registry.entries.length
    omega
  · rw [requests, List.length_cons] at few fresh
    rw [begun]
    refine ⟨⟨_, reflects'⟩, fun _ => Nat.lt_of_lt_of_le (Nat.succ_pos _) few, fun _ never => ?_⟩
    have before := budget (.inl ready) never
    have more_le := fresh never
    change s.sender.requests.length + (more.length + 1) ≤
      (s.dispatcher.step entry.command).2.2.registry.entries.length
    omega

/-- Only the worker has requests to hand over, as long as it is in its loop. -/
theorem requests_le {m : Move ν} (h : s.move? m = some t) (other : m.actor ≠ .worker)
    (inside : s.InLoop) : t.sender.requests.length ≤ s.sender.requests.length := by
  cases own : m.actor with
  | worker => exact absurd own other
  | outside =>
      obtain ⟨_, same | ⟨finished, _⟩⟩ := outside_queues h own
      · exact Nat.le_of_eq (by rw [same])
      · simp [InLoop, finished] at inside
  | eventLoop =>
      cases m with
      | sendRequest =>
          obtain ⟨_, _, first, rest, _, requests, sent⟩ := sendRequest_inv h
          cases first with
          | subscribe r =>
              obtain ⟨_, _, rfl⟩ := sent
              simp [requests]
          | disconnect =>
              obtain ⟨_, rfl⟩ := sent
              exact Nat.zero_le _
      | poll =>
          obtain ⟨_, _, first, _, _, _, polled⟩ := poll_inv h
          cases first with
          | connAck _ | publish _ | subAck _ =>
              cases polled
              exact Nat.le_refl _
          | disconnect =>
              cases polled
              exact Nat.zero_le _
      | passEvent =>
          obtain ⟨_, _, ⟨_, _, rfl⟩ | ⟨_, _, rfl⟩⟩ := passEvent_inv h
          · exact Nat.zero_le _
          · exact Nat.le_refl _
      | takeCommand | handOver | stop | closeCommands | collect | drained | giveUp => cases own
      | shutdown | disconnect | close | release | arrive _ | add _ _ | dropHandle | permit _ =>
          cases own

theorem Budgeted.out (h : Budgeted origin s) (out : ¬ t.InLoop)
    (same : t.dispatcher = s.dispatcher) : Budgeted origin t := by
  have idle : t.underway = 0 := by
    unfold underway
    cases stage : t.stage with
    | requesting pass => exact absurd (.inr ⟨pass, stage⟩) out
    | ready | draining | ended => rfl
  exact ⟨same ▸ h.reflects, fun busy => absurd idle busy, fun inside => absurd inside out⟩

theorem Budgeted.move {m : Move ν} (h : Budgeted origin s) (moved : s.move? m = some t) :
    Budgeted origin t := by
  by_cases own : m.actor = .worker
  · cases m with
    | takeCommand =>
        obtain ⟨entry, rest, ready, _, rfl⟩ := takeCommand_inv moved
        exact carryOut_budgeted (s := { s with commands := rest })
          ⟨h.reflects, h.registered, h.budget⟩ ready entry
    | handOver =>
        obtain ⟨pass, stage, _, _, _, after⟩ := handOver_inv moved
        have busy : s.underway = pass.rest.length + 1 := by simp [underway, stage]
        have grown := take_requests_le s.sender pass.current
        have known := h.registered (by omega)
        obtain ⟨last, rfl⟩ | ⟨_, r, more, next, rfl⟩ := after
        · refine ⟨h.reflects, fun busy => absurd rfl busy, fun _ never => ?_⟩
          have before := h.budget (.inr ⟨pass, stage⟩) never
          change (s.sender.take pass.current).2.requests.length + 0 ≤
            s.dispatcher.registry.entries.length
          omega
        · rw [next, List.length_cons] at busy
          refine ⟨h.reflects, fun _ => known, fun _ never => ?_⟩
          have before := h.budget (.inr ⟨pass, stage⟩) never
          change (s.sender.take pass.current).2.requests.length + (more.length + 1) ≤
            s.dispatcher.registry.entries.length
          omega
    | collect =>
        obtain ⟨_, _, _, rfl⟩ := collect_inv moved
        exact ⟨h.reflects, h.registered, h.budget⟩
    | stop =>
        obtain ⟨_, _, rfl⟩ := stop_inv moved
        exact h.out (not_inLoop_leave s _) (leave_dispatcher s _)
    | closeCommands =>
        obtain ⟨_, _, _, _, rfl⟩ := closeCommands_inv moved
        exact h.out (not_inLoop_leave s _) (leave_dispatcher s _)
    | drained =>
        obtain ⟨_, rfl⟩ := drained_inv moved
        exact h.out (by simp [InLoop, endWorker]) rfl
    | giveUp =>
        obtain ⟨_, rfl⟩ := giveUp_inv moved
        exact h.out (by simp [InLoop, endWorker]) rfl
    | sendRequest | poll | passEvent => cases own
    | shutdown | disconnect | close | release | arrive _ | add _ _ | dropHandle | permit _ =>
        cases own
  · obtain ⟨_, stage, dispatcher⟩ := worker_stands moved own
    have same : t.underway = s.underway := by rw [underway, stage, underway]
    refine ⟨dispatcher ▸ h.reflects, dispatcher ▸ same ▸ h.registered, fun inside never => ?_⟩
    have inside' : s.InLoop := ((move_inLoop moved).mp inside).1
    have before := h.budget inside' never
    have fewer := requests_le moved own inside'
    rw [same, dispatcher]
    omega

/-- Where a deadlock is, there are more wire topics than requests have room, or all of them are
asked for again and again. -/
theorem Deadlocked.crowded (h : s.Deadlocked) (budgeted : Budgeted origin s) :
    s.limits.requests < (Subscriber.distinct s.dispatcher.compiled).length ∨
      origin.settings.resubscribeOnSessionLoss = true ∧
        0 < (Subscriber.distinct s.dispatcher.compiled).length := by
  obtain ⟨pass, stage⟩ := h.requesting
  have busy : s.underway = pass.rest.length + 1 := by simp [underway, stage]
  have full : s.limits.requests ≤ s.sender.requests.length := by
    simpa [hasRequestRoom] using h.requestsFull
  obtain ⟨history, reflects⟩ := budgeted.reflects
  have registered := budgeted.registered (by omega)
  have few := reflects.entries_le
  cases again : origin.settings.resubscribeOnSessionLoss with
  | true => exact .inr ⟨rfl, by omega⟩
  | false =>
      have budget := budgeted.budget (.inr ⟨pass, stage⟩) again
      exact .inl (by omega)

end Session
end MqttRouting
