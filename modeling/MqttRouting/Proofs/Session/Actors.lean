import MqttRouting.Proofs.Session.Moves

/-!
What a move leaves as it is. A session has three actors, the worker, the event loop, and
whoever is outside; none of them touches what belongs to another one. The worker takes
commands in a loop, and having left it does not come back.
-/

namespace MqttRouting.Session

variable {ν : Type} {s t u : Session ν}

/-! Whose move it is. -/

inductive Actor where
  | worker
  | eventLoop
  | outside

def Move.actor : Move ν → Actor
  | .takeCommand | .handOver | .stop | .closeCommands | .collect | .drained | .giveUp => .worker
  | .sendRequest | .poll | .passEvent => .eventLoop
  | .shutdown | .disconnect | .close | .release | .arrive _ | .add _ _ | .dropHandle | .permit _ =>
    .outside

/-- The worker neither takes nor finishes anything. -/
structure WorkerStands (s t : Session ν) : Prop where
  limits : t.limits = s.limits
  stage : t.stage = s.stage
  dispatcher : t.dispatcher = s.dispatcher

/-- The event loop neither takes nor hands on anything. -/
structure LoopStands (s t : Session ν) : Prop where
  limits : t.limits = s.limits
  held : t.loop.held = s.loop.held
  ended : t.loop.ended = s.loop.ended
  attached : t.sender.attached = s.sender.attached

/-- The owner and the handles do nothing. -/
structure OutsideStands (s t : Session ν) : Prop where
  signal : t.signal = s.signal
  owner : t.owner = s.owner
  handles : t.handles = s.handles

theorem leave_stands (s : Session ν) (cause : Notice) :
    LoopStands s (s.leave cause) ∧ OutsideStands s (s.leave cause) := by
  obtain ⟨_, _, _, _, _, left⟩ := leave_inv s cause
  rw [left]
  exact ⟨⟨rfl, rfl, rfl, rfl⟩, ⟨rfl, rfl, rfl⟩⟩

theorem leave_dispatcher (s : Session ν) (cause : Notice) :
    (s.leave cause).dispatcher = s.dispatcher := by
  obtain ⟨_, _, _, _, _, left⟩ := leave_inv s cause
  rw [left]

theorem take_attached (sender : Sender) (r : Request) :
    (sender.take r).2.attached = sender.attached := by
  unfold Sender.take
  split <;> rfl

theorem leave_commands (s : Session ν) (cause : Notice) :
    (s.leave cause).commands <:+ s.commands := by
  obtain ⟨_, commands, _, _, kept, left⟩ := leave_inv s cause
  have same : (s.leave cause).commands = commands := congrArg Session.commands left
  obtain ⟨_, rfl⟩ | ⟨_, rfl⟩ := kept
  · exact same ▸ List.suffix_refl _
  · exact same ▸ List.nil_suffix

section

variable [Topic.Engine]

theorem carryOut_stands (ready : s.stage = .ready) (entry : Entry ν) :
    LoopStands s (s.carryOut entry) ∧ OutsideStands s (s.carryOut entry) := by
  obtain ⟨_, _, _, _, ⟨_, done⟩ | ⟨_, _, _, _, begun⟩⟩ := carryOut_inv ready entry
  · rw [done]
    exact ⟨⟨rfl, rfl, rfl, rfl⟩, ⟨rfl, rfl, rfl⟩⟩
  · rw [begun]
    exact ⟨⟨rfl, rfl, rfl, rfl⟩, ⟨rfl, rfl, rfl⟩⟩

theorem worker_move_stands {m : Move ν} (h : s.move? m = some t) (own : m.actor = .worker) :
    LoopStands s t ∧ OutsideStands s t := by
  cases m with
  | takeCommand =>
      obtain ⟨entry, rest, ready, _, rfl⟩ := takeCommand_inv h
      obtain ⟨⟨limits, held, ended, attached⟩, signal, owner, handles⟩ :=
        carryOut_stands (s := { s with commands := rest }) ready entry
      exact ⟨⟨limits, held, ended, attached⟩, signal, owner, handles⟩
  | handOver =>
      obtain ⟨pass, _, _, _, _, ⟨_, rfl⟩ | ⟨_, _, _, _, rfl⟩⟩ := handOver_inv h
      · exact ⟨⟨rfl, rfl, rfl, take_attached ..⟩, ⟨rfl, rfl, rfl⟩⟩
      · exact ⟨⟨rfl, rfl, rfl, take_attached ..⟩, ⟨rfl, rfl, rfl⟩⟩
  | stop =>
      obtain ⟨_, _, rfl⟩ := stop_inv h
      exact leave_stands s _
  | closeCommands =>
      obtain ⟨_, _, _, _, rfl⟩ := closeCommands_inv h
      exact leave_stands s _
  | collect =>
      obtain ⟨_, _, _, rfl⟩ := collect_inv h
      exact ⟨⟨rfl, rfl, rfl, rfl⟩, ⟨rfl, rfl, rfl⟩⟩
  | drained =>
      obtain ⟨_, rfl⟩ := drained_inv h
      exact ⟨⟨rfl, rfl, rfl, rfl⟩, ⟨rfl, rfl, rfl⟩⟩
  | giveUp =>
      obtain ⟨_, rfl⟩ := giveUp_inv h
      exact ⟨⟨rfl, rfl, rfl, rfl⟩, ⟨rfl, rfl, rfl⟩⟩
  | sendRequest | poll | passEvent => cases own
  | shutdown | disconnect | close | release | arrive _ | add _ _ | dropHandle | permit _ =>
      cases own

theorem loop_move_stands {m : Move ν} (h : s.move? m = some t) (own : m.actor = .eventLoop) :
    WorkerStands s t ∧ OutsideStands s t := by
  cases m with
  | sendRequest =>
      obtain ⟨_, _, first, _, _, _, sent⟩ := sendRequest_inv h
      cases first with
      | subscribe r =>
          obtain ⟨_, _, rfl⟩ := sent
          exact ⟨⟨rfl, rfl, rfl⟩, ⟨rfl, rfl, rfl⟩⟩
      | disconnect =>
          obtain ⟨_, rfl⟩ := sent
          exact ⟨⟨rfl, rfl, rfl⟩, ⟨rfl, rfl, rfl⟩⟩
  | poll =>
      obtain ⟨_, _, first, _, _, _, polled⟩ := poll_inv h
      cases first <;> cases polled <;> exact ⟨⟨rfl, rfl, rfl⟩, ⟨rfl, rfl, rfl⟩⟩
  | passEvent =>
      obtain ⟨_, _, ⟨_, _, rfl⟩ | ⟨_, _, rfl⟩⟩ := passEvent_inv h
      · exact ⟨⟨rfl, rfl, rfl⟩, ⟨rfl, rfl, rfl⟩⟩
      · exact ⟨⟨rfl, rfl, rfl⟩, ⟨rfl, rfl, rfl⟩⟩
  | takeCommand | handOver | stop | closeCommands | collect | drained | giveUp => cases own
  | shutdown | disconnect | close | release | arrive _ | add _ _ | dropHandle | permit _ =>
      cases own

/-- From outside nothing is brought to pass but what the owner and the handles may do. An
owner that has let go does nothing any more. -/
theorem outside_move_stands {m : Move ν} (h : s.move? m = some t) (own : m.actor = .outside) :
    WorkerStands s t ∧ LoopStands s t ∧ t.handles ≤ s.handles ∧
      (s.owner = .released → t.owner = .released ∧ t.signal = s.signal) := by
  cases m with
  | shutdown =>
      obtain ⟨holds, _, rfl⟩ := shutdown_inv h
      refine ⟨⟨rfl, rfl, rfl⟩, ⟨rfl, rfl, rfl, rfl⟩, Nat.le_refl _, fun released => ?_⟩
      cases holds.symm.trans released
  | disconnect =>
      obtain ⟨stopping, _, _, ⟨_, rfl⟩ | ⟨_, _, rfl⟩⟩ := disconnect_inv h
      · refine ⟨⟨rfl, rfl, rfl⟩, ⟨rfl, rfl, rfl, rfl⟩, Nat.le_refl _, fun released => ?_⟩
        cases stopping.symm.trans released
      · refine ⟨⟨rfl, rfl, rfl⟩, ⟨rfl, rfl, rfl, rfl⟩, Nat.le_refl _, fun released => ?_⟩
        cases stopping.symm.trans released
  | close =>
      obtain ⟨waits, _, _, rfl⟩ := close_inv h
      refine ⟨⟨rfl, rfl, rfl⟩, ⟨rfl, rfl, rfl, rfl⟩, Nat.le_refl _, fun released => ?_⟩
      cases waits.symm.trans released
  | release =>
      obtain ⟨holds, _, rfl⟩ := release_inv h
      refine ⟨⟨rfl, rfl, rfl⟩, ⟨rfl, rfl, rfl, rfl⟩, Nat.le_refl _, fun released => ?_⟩
      cases holds.symm.trans released
  | arrive packet =>
      obtain ⟨_, rfl⟩ := arrive_inv h
      exact ⟨⟨rfl, rfl, rfl⟩, ⟨rfl, rfl, rfl, rfl⟩, Nat.le_refl _, fun released => ⟨released, rfl⟩⟩
  | add caller declaration =>
      obtain ⟨_, ⟨_, rfl⟩ | ⟨_, _, rfl⟩⟩ := add_inv h
      · exact ⟨⟨rfl, rfl, rfl⟩, ⟨rfl, rfl, rfl, rfl⟩, Nat.le_refl _,
          fun released => ⟨released, rfl⟩⟩
      · exact ⟨⟨rfl, rfl, rfl⟩, ⟨rfl, rfl, rfl, rfl⟩, Nat.le_refl _,
          fun released => ⟨released, rfl⟩⟩
  | dropHandle =>
      obtain ⟨_, rfl⟩ := dropHandle_inv h
      exact ⟨⟨rfl, rfl, rfl⟩, ⟨rfl, rfl, rfl, rfl⟩, Nat.sub_le .., fun released => ⟨released, rfl⟩⟩
  | permit n =>
      cases h
      exact ⟨⟨rfl, rfl, rfl⟩, ⟨rfl, rfl, rfl, rfl⟩, Nat.le_refl _, fun released => ⟨released, rfl⟩⟩
  | takeCommand | handOver | stop | closeCommands | collect | drained | giveUp => cases own
  | sendRequest | poll | passEvent => cases own

section Moved

variable {m : Move ν}

theorem worker_stands (h : s.move? m = some t) (other : m.actor ≠ .worker) :
    WorkerStands s t := by
  cases own : m.actor with
  | worker => exact absurd own other
  | eventLoop => exact (loop_move_stands h own).1
  | outside => exact (outside_move_stands h own).1

theorem loop_stands (h : s.move? m = some t) (other : m.actor ≠ .eventLoop) :
    LoopStands s t := by
  cases own : m.actor with
  | worker => exact (worker_move_stands h own).1
  | eventLoop => exact absurd own other
  | outside => exact (outside_move_stands h own).2.1

theorem move_limits (h : s.move? m = some t) : t.limits = s.limits := by
  cases own : m.actor with
  | worker => exact (worker_move_stands h own).1.limits
  | eventLoop => exact (loop_move_stands h own).1.limits
  | outside => exact (outside_move_stands h own).1.limits

theorem move_handles (h : s.move? m = some t) : t.handles ≤ s.handles := by
  cases own : m.actor with
  | worker => exact Nat.le_of_eq (worker_move_stands h own).2.handles
  | eventLoop => exact Nat.le_of_eq (loop_move_stands h own).2.handles
  | outside => exact (outside_move_stands h own).2.2.1

end Moved

/-- A worker that has ended does nothing, and inside a pass it only hands over. -/
theorem worker_at_work {m : Move ν} (h : s.move? m = some t) (own : m.actor = .worker) :
    s.stage = .ready ∨ s.stage = .draining ∨
      m = .handOver ∧ ∃ pass, s.stage = .requesting pass := by
  cases m with
  | takeCommand =>
      obtain ⟨_, _, ready, _⟩ := takeCommand_inv h
      exact .inl ready
  | handOver =>
      obtain ⟨pass, requesting, _⟩ := handOver_inv h
      exact .inr (.inr ⟨rfl, pass, requesting⟩)
  | stop =>
      obtain ⟨ready, _⟩ := stop_inv h
      exact .inl ready
  | closeCommands =>
      obtain ⟨ready, _⟩ := closeCommands_inv h
      exact .inl ready
  | collect =>
      obtain ⟨ready | draining, _⟩ := collect_inv h
      · exact .inl ready
      · exact .inr (.inl draining)
  | drained =>
      obtain ⟨draining, _⟩ := drained_inv h
      exact .inr (.inl draining)
  | giveUp =>
      obtain ⟨draining, _⟩ := giveUp_inv h
      exact .inr (.inl draining)
  | sendRequest | poll | passEvent => cases own
  | shutdown | disconnect | close | release | arrive _ | add _ _ | dropHandle | permit _ =>
      cases own

/-! The queues between them. -/

theorem worker_commands {m : Move ν} (h : s.move? m = some t) (own : m.actor = .worker) :
    t.commands <:+ s.commands := by
  cases m with
  | takeCommand =>
      obtain ⟨entry, rest, ready, present, rfl⟩ := takeCommand_inv h
      have taken : rest <:+ s.commands := present ▸ List.suffix_cons entry rest
      obtain ⟨_, _, _, _, ⟨_, done⟩ | ⟨_, _, _, _, begun⟩⟩ :=
        carryOut_inv (s := { s with commands := rest }) ready entry
      · rw [done]
        exact taken
      · rw [begun]
        exact taken
  | handOver =>
      obtain ⟨_, _, _, _, _, ⟨_, rfl⟩ | ⟨_, _, _, _, rfl⟩⟩ := handOver_inv h
      · exact List.suffix_refl _
      · exact List.suffix_refl _
  | stop =>
      obtain ⟨_, _, rfl⟩ := stop_inv h
      exact leave_commands s _
  | closeCommands =>
      obtain ⟨_, _, _, _, rfl⟩ := closeCommands_inv h
      exact leave_commands s _
  | collect =>
      obtain ⟨_, _, _, rfl⟩ := collect_inv h
      exact List.suffix_refl _
  | drained =>
      obtain ⟨_, rfl⟩ := drained_inv h
      exact List.nil_suffix
  | giveUp =>
      obtain ⟨_, rfl⟩ := giveUp_inv h
      exact List.nil_suffix
  | sendRequest | poll | passEvent => cases own
  | shutdown | disconnect | close | release | arrive _ | add _ _ | dropHandle | permit _ =>
      cases own

theorem loop_commands {m : Move ν} (h : s.move? m = some t) (own : m.actor = .eventLoop) :
    t.commands = s.commands ∨ ∃ e, t.commands = s.commands ++ [⟨.event e, none⟩] := by
  cases m with
  | sendRequest =>
      obtain ⟨_, _, first, _, _, _, sent⟩ := sendRequest_inv h
      cases first with
      | subscribe r =>
          obtain ⟨_, _, rfl⟩ := sent
          exact .inl rfl
      | disconnect =>
          obtain ⟨_, rfl⟩ := sent
          exact .inl rfl
  | poll =>
      obtain ⟨_, _, first, _, _, _, polled⟩ := poll_inv h
      cases first <;> cases polled <;> exact .inl rfl
  | passEvent =>
      obtain ⟨e, _, ⟨_, _, rfl⟩ | ⟨_, _, rfl⟩⟩ := passEvent_inv h
      · exact .inl rfl
      · exact .inr ⟨e, rfl⟩
  | takeCommand | handOver | stop | closeCommands | collect | drained | giveUp => cases own
  | shutdown | disconnect | close | release | arrive _ | add _ _ | dropHandle | permit _ =>
      cases own

/-- From outside come declarations, where there is room, and at last a request to disconnect,
when the worker has ended. -/
theorem outside_queues {m : Move ν} (h : s.move? m = some t) (own : m.actor = .outside) :
    (t.commands = s.commands ∨
      s.hasCommandRoom = true ∧ ∃ caller declaration, m = .add caller declaration) ∧
    (t.sender = s.sender ∨ s.stage = .ended ∧
      t.sender = { s.sender with requests := s.sender.requests ++ [.disconnect] }) := by
  cases m with
  | shutdown =>
      obtain ⟨_, _, rfl⟩ := shutdown_inv h
      exact ⟨.inl rfl, .inl rfl⟩
  | disconnect =>
      obtain ⟨_, finished, _, ⟨_, rfl⟩ | ⟨_, _, rfl⟩⟩ := disconnect_inv h
      · exact ⟨.inl rfl, .inl rfl⟩
      · exact ⟨.inl rfl, .inr ⟨finished, rfl⟩⟩
  | close =>
      obtain ⟨_, _, _, rfl⟩ := close_inv h
      exact ⟨.inl rfl, .inl rfl⟩
  | release =>
      obtain ⟨_, _, rfl⟩ := release_inv h
      exact ⟨.inl rfl, .inl rfl⟩
  | arrive packet =>
      obtain ⟨_, rfl⟩ := arrive_inv h
      exact ⟨.inl rfl, .inl rfl⟩
  | add caller declaration =>
      obtain ⟨_, ⟨_, rfl⟩ | ⟨_, room, rfl⟩⟩ := add_inv h
      · exact ⟨.inl rfl, .inl rfl⟩
      · exact ⟨.inr ⟨room, caller, declaration, rfl⟩, .inl rfl⟩
  | dropHandle =>
      obtain ⟨_, rfl⟩ := dropHandle_inv h
      exact ⟨.inl rfl, .inl rfl⟩
  | permit n =>
      cases h
      exact ⟨.inl rfl, .inl rfl⟩
  | takeCommand | handOver | stop | closeCommands | collect | drained | giveUp => cases own
  | sendRequest | poll | passEvent => cases own

end

/-! The loop of the worker. -/

/-- The worker takes commands, or is at work on one. -/
def InLoop (s : Session ν) : Prop := s.stage = .ready ∨ ∃ pass, s.stage = .requesting pass

def Move.leaves : Move ν → Bool
  | .stop | .closeCommands => true
  | _ => false

theorem not_inLoop_leave (s : Session ν) (cause : Notice) : ¬ (s.leave cause).InLoop := by
  obtain ⟨_, _, _, _, ⟨rfl, rfl⟩ | ⟨rfl, rfl⟩, left⟩ := leave_inv s cause
  · simp [left, InLoop]
  · simp [left, InLoop]

variable [Topic.Engine]

theorem inLoop_carryOut (ready : s.stage = .ready) (entry : Entry ν) :
    (s.carryOut entry).InLoop := by
  obtain ⟨_, _, _, _, ⟨_, done⟩ | ⟨_, _, _, _, begun⟩⟩ := carryOut_inv ready entry
  · rw [done]
    exact .inl rfl
  · rw [begun]
    exact .inr ⟨_, rfl⟩

/-- A worker in its loop stays there, unless it leaves; one that has left it does not come
back. -/
theorem move_inLoop {m : Move ν} (h : s.move? m = some t) :
    t.InLoop ↔ s.InLoop ∧ m.leaves = false := by
  by_cases own : m.actor = .worker
  · cases m with
    | takeCommand =>
        obtain ⟨entry, rest, ready, _, rfl⟩ := takeCommand_inv h
        have inside := inLoop_carryOut (s := { s with commands := rest }) ready entry
        exact ⟨fun _ => ⟨.inl ready, rfl⟩, fun _ => inside⟩
    | handOver =>
        obtain ⟨pass, requesting, _, _, _, ⟨_, rfl⟩ | ⟨_, _, _, _, rfl⟩⟩ := handOver_inv h
        · exact ⟨fun _ => ⟨.inr ⟨_, requesting⟩, rfl⟩, fun _ => .inl rfl⟩
        · exact ⟨fun _ => ⟨.inr ⟨_, requesting⟩, rfl⟩, fun _ => .inr ⟨_, rfl⟩⟩
    | stop =>
        obtain ⟨_, _, rfl⟩ := stop_inv h
        exact ⟨fun inside => absurd inside (not_inLoop_leave s _), nofun⟩
    | closeCommands =>
        obtain ⟨_, _, _, _, rfl⟩ := closeCommands_inv h
        exact ⟨fun inside => absurd inside (not_inLoop_leave s _), nofun⟩
    | collect =>
        obtain ⟨_, _, _, rfl⟩ := collect_inv h
        exact ⟨fun inside => ⟨inside, rfl⟩, fun inside => inside.1⟩
    | drained =>
        obtain ⟨draining, rfl⟩ := drained_inv h
        simp [InLoop, endWorker, draining]
    | giveUp =>
        obtain ⟨draining, rfl⟩ := giveUp_inv h
        simp [InLoop, endWorker, draining]
    | sendRequest | poll | passEvent => cases own
    | shutdown | disconnect | close | release | arrive _ | add _ _ | dropHandle | permit _ =>
        cases own
  · have stays : m.leaves = false := by
      cases m <;> first | rfl | exact absurd rfl own
    rw [InLoop, InLoop, (worker_stands h own).stage]
    simp only [stays, and_true]

theorem move_dispatcher {m : Move ν} (h : s.move? m = some t) (other : m ≠ .takeCommand) :
    t.dispatcher = s.dispatcher := by
  by_cases own : m.actor = .worker
  · cases m with
    | takeCommand => exact absurd rfl other
    | handOver =>
        obtain ⟨_, _, _, _, _, ⟨_, rfl⟩ | ⟨_, _, _, _, rfl⟩⟩ := handOver_inv h
        · rfl
        · rfl
    | stop =>
        obtain ⟨_, _, rfl⟩ := stop_inv h
        exact leave_dispatcher s _
    | closeCommands =>
        obtain ⟨_, _, _, _, rfl⟩ := closeCommands_inv h
        exact leave_dispatcher s _
    | collect =>
        obtain ⟨_, _, _, rfl⟩ := collect_inv h
        rfl
    | drained =>
        obtain ⟨_, rfl⟩ := drained_inv h
        rfl
    | giveUp =>
        obtain ⟨_, rfl⟩ := giveUp_inv h
        rfl
    | sendRequest | poll | passEvent => cases own
    | shutdown | disconnect | close | release | arrive _ | add _ _ | dropHandle | permit _ =>
        cases own
  · exact (worker_stands h own).dispatcher

/-- A worker that has left its loop handles nothing any more. -/
theorem Reaches.out_of_loop (h : Reaches s t) (out : ¬ s.InLoop) :
    ¬ t.InLoop ∧ t.dispatcher = s.dispatcher := by
  refine h.invariant (P := fun u => ¬ u.InLoop ∧ u.dispatcher = s.dispatcher) ?_ ⟨out, rfl⟩
  intro u v m ⟨out, same⟩ moved
  have other : m ≠ .takeCommand := by
    rintro rfl
    obtain ⟨_, _, ready, _⟩ := takeCommand_inv moved
    exact out (.inl ready)
  exact ⟨fun inside => out ((move_inLoop moved).mp inside).1,
    (move_dispatcher moved other).trans same⟩

/-! The two ends of the client. -/

/-- The client takes requests as long as its event loop runs. -/
def Linked (s : Session ν) : Prop := s.sender.attached = !s.loop.ended

theorem Linked.move {m : Move ν} (h : s.Linked) (moved : s.move? m = some t) : t.Linked := by
  by_cases own : m.actor = .eventLoop
  · cases m with
    | sendRequest =>
        obtain ⟨_, _, first, _, _, _, sent⟩ := sendRequest_inv moved
        cases first with
        | subscribe r =>
            obtain ⟨_, _, rfl⟩ := sent
            exact h
        | disconnect =>
            obtain ⟨_, rfl⟩ := sent
            rfl
    | poll =>
        obtain ⟨_, _, first, _, _, _, polled⟩ := poll_inv moved
        cases first with
        | connAck _ | publish _ | subAck _ =>
            cases polled
            exact h
        | disconnect =>
            cases polled
            rfl
    | passEvent =>
        obtain ⟨_, _, ⟨_, _, rfl⟩ | ⟨_, _, rfl⟩⟩ := passEvent_inv moved
        · rfl
        · exact h
    | takeCommand | handOver | stop | closeCommands | collect | drained | giveUp => cases own
    | shutdown | disconnect | close | release | arrive _ | add _ _ | dropHandle | permit _ =>
        cases own
  · have stands := loop_stands moved own
    rw [Linked, stands.attached, stands.ended]
    exact h

end MqttRouting.Session
