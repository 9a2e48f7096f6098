import MqttRouting.Router.Connect

/-!
What the moves of a session do. Each move is inverted once: where it is possible, and which
parts of the session it leaves another. What holds along all runs follows from these.
-/

namespace MqttRouting

variable {ν : Type}

/-- A router is connected with a dispatcher that knows the declarations, and with room for at
least one command. -/
theorem Router.connect_ok [Topic.Engine] {c : Config} {declarations : List (Declaration ν)}
    {reception : Reception} {s : Session ν} (h : connect c declarations reception = .ok s) :
    ∃ d sessionPresent,
      Dispatcher.ofDeclarations c.settings c.transforms c.hook declarations = .ok d ∧
      0 < c.commandCapacity ∧ s = start c d sessionPresent := by
  unfold connect checkConfig at h
  by_cases empty : c.commandCapacity = 0
  · rw [if_pos empty] at h
    cases h
  · rw [if_neg empty] at h
    cases compiled :
        Dispatcher.ofDeclarations c.settings c.transforms c.hook declarations with
    | error e =>
        rw [compiled] at h
        cases h
    | ok d =>
        rw [compiled] at h
        cases answer : establish c.timeout reception with
        | error e =>
            rw [answer] at h
            cases h
        | ok sessionPresent =>
            rw [answer] at h
            cases h
            exact ⟨d, sessionPresent, rfl, Nat.pos_of_ne_zero empty, rfl⟩

/-- What a caller hears of an effect, once its requests are answered. -/
def Effect.outcome (answers : List (Request × Answer)) : Effect ν → Option CallResult
  | .pass p => some (.report (.ofAnswers p.registered answers))
  | .refused e => some (.refused e)
  | .call _ | .nothing => none

namespace Session

variable {s t u : Session ν}

/-- An outcome as it goes to a caller, if there are both. -/
def told (caller : Option Nat) : Option CallResult → Option (Nat × CallResult)
  | some result => caller.map (·, result)
  | none => none

/-! Runs. -/

/-- The session behind a sequence of moves, if all of them are possible. -/
def run? [Topic.Engine] (s : Session ν) : List (Move ν) → Option (Session ν)
  | [] => some s
  | m :: rest => (s.move? m).bind fun t => t.run? rest

theorem run?_append [Topic.Engine] (s : Session ν) (front back : List (Move ν)) :
    s.run? (front ++ back) = (s.run? front).bind fun t => t.run? back := by
  induction front generalizing s with
  | nil => rfl
  | cons m rest ih =>
      rw [List.cons_append, run?, run?, Option.bind_assoc]
      exact congrArg _ (funext ih)

namespace Reaches

variable [Topic.Engine]

theorem trans (h : Reaches s t) (h' : Reaches t u) : Reaches s u := by
  induction h' with
  | refl => exact h
  | step m _ moved ih => exact .step m ih moved

theorem of_run? {moves : List (Move ν)} (h : s.run? moves = some t) : Reaches s t := by
  induction moves generalizing s with
  | nil =>
      cases h
      exact .refl _
  | cons m rest ih =>
      obtain ⟨next, moved, h⟩ := Option.bind_eq_some_iff.mp h
      exact ((Reaches.refl s).step m moved).trans (ih h)

/-- What every move keeps holds for all that is reached. -/
theorem invariant {P : Session ν → Prop} (kept : ∀ {s t} m, P s → s.move? m = some t → P t)
    (h : Reaches s t) (first : P s) : P t := by
  induction h with
  | refl => exact first
  | step m _ moved ih => exact kept m ih moved

end Reaches

/-! The worker. -/

theorem reply_eq (s : Session ν) (caller : Option Nat) (result : CallResult) :
    s.reply caller result = { s with
      results := s.results ++ (told caller (some result)).toList } := by
  cases caller with
  | none => simp [reply, told]
  | some caller => rfl

theorem isReady_iff : s.isReady = true ↔ s.stage = .ready := by
  unfold isReady
  cases s.stage <;> simp

theorem isDraining_iff : s.isDraining = true ↔ s.stage = .draining := by
  unfold isDraining
  cases s.stage <;> simp

theorem workerEnded_iff : s.workerEnded = true ↔ s.stage = .ended := by
  unfold workerEnded
  cases s.stage <;> simp

/-- A command begins a registration pass, or is over at once and its caller is told so. -/
theorem carryOut_eq [Topic.Engine] (ready : s.stage = .ready) (entry : Entry ν) :
    ∃ pool crashes activity,
      ((s.dispatcher.step entry.command).1.requests = [] ∧ s.carryOut entry = { s with
        dispatcher := (s.dispatcher.step entry.command).2.2
        stage := .ready, pool, crashes, activity
        results := s.results ++
          (told entry.caller ((s.dispatcher.step entry.command).1.outcome [])).toList }) ∨
      ∃ p r more, (s.dispatcher.step entry.command).1 = .pass p ∧ p.requests = r :: more ∧
        s.carryOut entry = { s with
          dispatcher := (s.dispatcher.step entry.command).2.2
          sender := s.sender.track r, pool, crashes, activity
          stage := .requesting ⟨p.registered, [], r, more, entry.caller⟩ } := by
  obtain ⟨limits, dispatcher, pool, crashes, stage, commands, signal, owner, handles, sender,
    loop, results, activity⟩ := s
  cases ready
  cases step : dispatcher.step entry.command with
  | mk effect rest =>
      obtain ⟨notices, d⟩ := rest
      simp only [carryOut, step]
      cases effect with
      | pass p =>
          refine ⟨pool, crashes, activity.append ⟨[], notices⟩, ?_⟩
          cases requests : p.requests with
          | nil =>
              refine .inl ⟨requests, ?_⟩
              simp only [requests, continuePass, reply_eq]
              rfl
          | cons r more =>
              refine .inr ⟨p, r, more, rfl, requests, ?_⟩
              simp only [requests]
              rfl
      | refused e =>
          refine ⟨pool, crashes, activity.append ⟨[], notices⟩, .inl ⟨rfl, ?_⟩⟩
          simp only [reply_eq]
          rfl
      | call c =>
          cases Host.messageOf? entry.command with
          | none => exact ⟨_, _, _, .inl ⟨rfl, by simp [Effect.outcome, told]; rfl⟩⟩
          | some m => exact ⟨_, _, _, .inl ⟨rfl, by simp [Effect.outcome, told]; rfl⟩⟩
      | nothing => exact ⟨_, _, _, .inl ⟨rfl, by simp [Effect.outcome, told]; rfl⟩⟩

/-- The same without what the caller is told. -/
theorem carryOut_inv [Topic.Engine] (ready : s.stage = .ready) (entry : Entry ν) :
    ∃ pool crashes results activity,
      ((s.dispatcher.step entry.command).1.requests = [] ∧ s.carryOut entry = { s with
        dispatcher := (s.dispatcher.step entry.command).2.2
        stage := .ready, pool, crashes, results, activity }) ∨
      ∃ registered r more, (s.dispatcher.step entry.command).1.requests = r :: more ∧
        s.carryOut entry = { s with
          dispatcher := (s.dispatcher.step entry.command).2.2
          sender := s.sender.track r, pool, crashes, results, activity
          stage := .requesting ⟨registered, [], r, more, entry.caller⟩ } := by
  obtain ⟨pool, crashes, activity, done | ⟨p, r, more, effect, requests, begun⟩⟩ :=
    carryOut_eq ready entry
  · exact ⟨pool, crashes, _, activity, .inl done⟩
  · refine ⟨pool, crashes, s.results, activity, .inr ⟨p.registered, r, more, ?_, begun⟩⟩
    rw [effect]
    exact requests

theorem takeCommand_inv [Topic.Engine] (h : s.takeCommand? = some t) :
    ∃ entry rest, s.stage = .ready ∧ s.commands = entry :: rest ∧
      t = { s with commands := rest }.carryOut entry := by
  unfold takeCommand? at h
  split at h
  · cases h
    exact ⟨_, _, isReady_iff.mp ‹_›, ‹_›, rfl⟩
  · cases h

/-- A request is handed over where the client has room, and refused where it is gone; then the
next one is tracked, or the pass is over and its caller gets the report. -/
theorem handOver_eq (h : s.handOver? = some t) :
    ∃ pass, s.stage = .requesting pass ∧
      (s.sender.attached = true → s.hasRequestRoom = true) ∧
      ∃ activity,
        (pass.rest = [] ∧ t = { s with
          sender := (s.sender.take pass.current).2, stage := .ready, activity
          results := s.results ++ (told pass.caller (some (.report (.ofAnswers pass.registered
            (pass.answered ++ [(pass.current, (s.sender.take pass.current).1)]))))).toList }) ∨
        ∃ r more, pass.rest = r :: more ∧ t = { s with
          sender := (s.sender.take pass.current).2.track r, activity
          stage := .requesting ⟨pass.registered,
            pass.answered ++ [(pass.current, (s.sender.take pass.current).1)],
            r, more, pass.caller⟩ } := by
  unfold handOver? at h
  cases stage : s.stage with
  | requesting pass =>
      simp only [stage] at h
      split at h
      · cases h
      · rename_i room
        simp only [Bool.and_eq_true, Bool.not_eq_true', not_and, Bool.not_eq_false] at room
        refine ⟨pass, rfl, room, ?_⟩
        cases h
        cases rest : pass.rest with
        | nil => exact ⟨_, .inl ⟨rfl, reply_eq ..⟩⟩
        | cons r more => exact ⟨_, .inr ⟨r, more, rfl, rfl⟩⟩
  | ready => simp [stage] at h
  | draining => simp [stage] at h
  | ended => simp [stage] at h

/-- The same without what the caller is told. -/
theorem handOver_inv (h : s.handOver? = some t) :
    ∃ pass, s.stage = .requesting pass ∧
      (s.sender.attached = true → s.hasRequestRoom = true) ∧
      ∃ results activity,
        (pass.rest = [] ∧ t = { s with
          sender := (s.sender.take pass.current).2, stage := .ready, results, activity }) ∨
        ∃ answered r more, pass.rest = r :: more ∧ t = { s with
          sender := (s.sender.take pass.current).2.track r
          stage := .requesting ⟨pass.registered, answered, r, more, pass.caller⟩
          results, activity } := by
  obtain ⟨pass, stage, room, activity, last | ⟨r, more, rest, goes⟩⟩ := handOver_eq h
  · exact ⟨pass, stage, room, _, activity, .inl last⟩
  · exact ⟨pass, stage, room, s.results, activity, .inr ⟨_, r, more, rest, goes⟩⟩

/-- The worker waits for handlers, or it ends and whoever waits for it is told so. -/
theorem leave_eq (s : Session ν) (cause : Notice) :
    ∃ activity, s.leave cause = { s with stage := .draining, activity } ∨
      s.leave cause = { s with
        stage := .ended, commands := [], activity
        results := s.results ++
          s.commands.filterMap fun entry => told entry.caller (some (.lost .responseLost)) } := by
  unfold leave
  dsimp only
  split
  · exact ⟨_, .inr rfl⟩
  · exact ⟨_, .inl rfl⟩

theorem leave_inv (s : Session ν) (cause : Notice) :
    ∃ stage commands results activity,
      (stage = .draining ∧ commands = s.commands ∨ stage = .ended ∧ commands = []) ∧
      s.leave cause = { s with stage, commands, results, activity } := by
  obtain ⟨activity, left | left⟩ := leave_eq s cause
  · exact ⟨_, _, _, activity, .inl ⟨rfl, rfl⟩, left⟩
  · exact ⟨_, _, _, activity, .inr ⟨rfl, rfl⟩, left⟩

theorem stop_inv (h : s.stop? = some t) :
    s.stage = .ready ∧ s.signal ≠ .held ∧ t = s.leave .stopSignal := by
  unfold stop? at h
  split at h
  · rename_i told
    simp only [Bool.and_eq_true, bne_iff_ne, isReady_iff] at told
    cases h
    exact ⟨told.1, told.2, rfl⟩
  · cases h

theorem closeCommands_inv (h : s.closeCommands? = some t) :
    s.stage = .ready ∧ s.commands = [] ∧ s.handles = 0 ∧ s.loop.ended = true ∧
      t = s.leave .commandsClosed := by
  unfold closeCommands? at h
  split at h
  · rename_i closed
    simp only [Bool.and_eq_true, beq_iff_eq, List.isEmpty_iff, isReady_iff] at closed
    cases h
    exact ⟨closed.1.1.1, closed.1.1.2, closed.1.2, closed.2, rfl⟩
  · cases h

theorem collect_inv (h : s.collect? = some t) :
    (s.stage = .ready ∨ s.stage = .draining) ∧
      ∃ crashes activity, t = { s with crashes, activity } := by
  unfold collect? at h
  split at h
  · rename_i crashed
    simp only [Bool.and_eq_true, Bool.or_eq_true, isReady_iff, isDraining_iff] at crashed
    cases h
    exact ⟨crashed.1, _, _, rfl⟩
  · cases h

theorem drained_inv (h : s.drained? = some t) : s.stage = .draining ∧ t = s.endWorker := by
  unfold drained? at h
  split at h
  · rename_i finished
    simp only [Bool.and_eq_true, isDraining_iff] at finished
    cases h
    exact ⟨finished.1, rfl⟩
  · cases h

theorem giveUp_inv (h : s.giveUp? = some t) :
    s.stage = .draining ∧ t = (s.note [.stillRunning drainLimit]).endWorker := by
  unfold giveUp? at h
  split at h
  · rename_i finished
    simp only [Bool.and_eq_true, isDraining_iff] at finished
    cases h
    exact ⟨finished.1, rfl⟩
  · cases h

/-! The event loop. -/

theorem polling_iff {l : EventLoop} :
    l.polling = true ↔ l.ended = false ∧ l.held = none := by
  simp [EventLoop.polling]

/-- The oldest request is sent, or the loop ends with a request to disconnect. -/
theorem sendRequest_inv (h : s.sendRequest? = some t) :
    s.loop.ended = false ∧ s.loop.held = none ∧ ∃ first rest activity,
      s.sender.requests = first :: rest ∧
      match first with
      | .subscribe _ =>
        ∃ sent lastPacketId, t = { s with
          loop := { s.loop with sent, lastPacketId }
          sender := { s.sender with
            tracker := (s.sender.tracker.outgoing (s.loop.lastPacketId + 1)).2
            requests := rest }
          activity }
      | .disconnect =>
        ∃ sent, t = { s with
          loop := { s.loop with sent, ended := true, held := none }
          sender := s.sender.detach, activity } := by
  obtain ⟨⟨notices, loop, sender⟩, sends, rfl⟩ := Option.map_eq_some_iff.mp h
  unfold EventLoop.sendRequest? at sends
  split at sends
  · cases sends
  · rename_i polls
    simp only [Bool.not_eq_true', Bool.not_eq_false, polling_iff] at polls
    refine ⟨polls.1, polls.2, ?_⟩
    cases requests : s.sender.requests with
    | nil => simp [requests] at sends
    | cons first rest =>
        refine ⟨first, rest, (s.note notices).activity, rfl, ?_⟩
        cases first with
        | subscribe r =>
            simp only [requests] at sends
            cases sends
            exact ⟨_, _, rfl⟩
        | disconnect =>
            simp only [requests] at sends
            cases sends
            exact ⟨_, rfl⟩

/-- What comes from the broker becomes an event that is held, or nothing, or the end. -/
theorem poll_inv (h : s.poll? = some t) :
    s.loop.ended = false ∧ s.loop.held = none ∧ ∃ first inbound activity,
      s.loop.inbound = first :: inbound ∧
      match first with
      | .connAck sessionPresent => t = { s with
          loop := { s.loop with inbound, held := some (.connected sessionPresent) }
          sender := { s.sender with tracker :=
            if sessionPresent then s.sender.tracker else s.sender.tracker.reset.2 }
          activity }
      | .publish p => t = { s with
          loop := { s.loop with
            inbound, held := some (.message (Message.ofPacket (EventLoop.onArrival p))) }
          activity }
      | .subAck ack => t = { s with
          loop := { s.loop with inbound, held :=
            (s.sender.tracker.acknowledge ack).1.map fun e => .subscribeResult e.1 e.2 }
          sender := { s.sender with tracker := (s.sender.tracker.acknowledge ack).2.2 }
          activity }
      | .disconnect => t = { s with
          loop := { s.loop with inbound, ended := true, held := none }
          sender := s.sender.detach, activity } := by
  obtain ⟨⟨notices, loop, sender⟩, polled, rfl⟩ := Option.map_eq_some_iff.mp h
  unfold EventLoop.poll? at polled
  split at polled
  · cases polled
  · rename_i polls
    simp only [Bool.not_eq_true', Bool.not_eq_false, polling_iff] at polls
    refine ⟨polls.1, polls.2, ?_⟩
    cases inbound : s.loop.inbound with
    | nil => simp [inbound] at polled
    | cons first rest =>
        refine ⟨first, rest, (s.note notices).activity, rfl, ?_⟩
        simp only [inbound] at polled
        cases first with
        | connAck sessionPresent =>
            cases sessionPresent with
            | true =>
                cases polled
                rfl
            | false =>
                cases polled
                rfl
        | publish p =>
            cases polled
            rfl
        | subAck ack =>
            cases polled
            rfl
        | disconnect =>
            cases polled
            rfl

/-- An event goes into the queue, or it ends the loop where there is no worker any more. -/
theorem passEvent_inv (h : s.passEvent? = some t) :
    ∃ e, s.loop.held = some e ∧
      (s.stage = .ended ∧ (∃ activity, t = { s with
          loop := { s.loop with ended := true, held := none }
          sender := s.sender.detach, activity }) ∨
        s.stage ≠ .ended ∧ s.hasCommandRoom = true ∧ t = { s with
          commands := s.commands ++ [⟨.event e, none⟩]
          loop := { s.loop with held := none } }) := by
  unfold passEvent? at h
  cases held : s.loop.held with
  | none => simp [held] at h
  | some e =>
      refine ⟨e, rfl, ?_⟩
      simp only [held] at h
      split at h
      · rename_i finished
        cases h
        exact .inl ⟨workerEnded_iff.mp finished, _, rfl⟩
      · rename_i works
        split at h
        · cases h
          exact .inr ⟨fun finished => works (workerEnded_iff.mpr finished), ‹_›, rfl⟩
        · cases h

/-! The owner. -/

theorem shutdown_inv (h : s.shutdown? = some t) :
    s.owner = .holding ∧ ∃ activity,
      t = { s with owner := .stopping, signal := .given, activity } := by
  unfold shutdown? at h
  split at h
  · rename_i holds
    cases h
    refine ⟨holds, ?_⟩
    split
    · exact ⟨_, rfl⟩
    · exact ⟨_, rfl⟩
  · cases h

theorem disconnect_inv (h : s.disconnect? = some t) :
    s.owner = .stopping ∧ s.stage = .ended ∧ ∃ activity,
      s.sender.attached = false ∧ t = { s with owner := .disconnecting, activity } ∨
      s.sender.attached = true ∧ s.hasRequestRoom = true ∧ t = { s with
        owner := .disconnecting
        sender := { s.sender with requests := s.sender.requests ++ [Outbound.disconnect] }
        activity } := by
  unfold disconnect? at h
  split at h
  · rename_i finished
    simp only [Bool.and_eq_true, decide_eq_true_eq, workerEnded_iff] at finished
    refine ⟨finished.1, finished.2, ?_⟩
    split at h
    · rename_i gone
      cases h
      exact ⟨_, .inl ⟨by simpa using gone, rfl⟩⟩
    · rename_i there
      split at h
      · rename_i room
        cases h
        exact ⟨_, .inr ⟨by simpa using there, room, rfl⟩⟩
      · cases h
  · cases h

theorem close_inv (h : s.close? = some t) :
    s.owner = .disconnecting ∧ s.loop.ended = true ∧
      ∃ activity, t = { s with owner := .closed, activity } := by
  unfold close? at h
  split at h
  · rename_i finished
    simp only [Bool.and_eq_true, decide_eq_true_eq] at finished
    cases h
    exact ⟨finished.1, finished.2, _, rfl⟩
  · cases h

theorem release_inv (h : s.release? = some t) :
    s.owner = .holding ∧ ∃ activity,
      t = { s with owner := .released, signal := .dropped, activity } := by
  unfold release? at h
  split at h
  · cases h
    exact ⟨‹_›, _, rfl⟩
  · cases h

/-! The surroundings. -/

theorem arrive_inv {packet : Incoming} (h : s.arrive? packet = some t) :
    s.loop.ended = false ∧
      t = { s with loop := { s.loop with inbound := s.loop.inbound ++ [packet] } } := by
  unfold arrive? at h
  split at h
  · cases h
  · rename_i runs
    cases h
    exact ⟨by simpa using runs, rfl⟩

theorem add_inv {caller : Nat} {declaration : Declaration ν}
    (h : s.add? caller declaration = some t) :
    s.handles ≠ 0 ∧
      (s.stage = .ended ∧ t = s.reply (some caller) (.lost .channelClosed) ∨
        s.stage ≠ .ended ∧ s.hasCommandRoom = true ∧
          t = { s with commands := s.commands ++ [⟨.add declaration, some caller⟩] }) := by
  unfold add? at h
  split at h
  · cases h
  · rename_i alive
    refine ⟨alive, ?_⟩
    split at h
    · rename_i finished
      cases h
      exact .inl ⟨workerEnded_iff.mp finished, rfl⟩
    · rename_i works
      split at h
      · cases h
        exact .inr ⟨fun finished => works (workerEnded_iff.mpr finished), ‹_›, rfl⟩
      · cases h

theorem dropHandle_inv (h : s.dropHandle? = some t) :
    s.handles ≠ 0 ∧ t = { s with handles := s.handles - 1 } := by
  unfold dropHandle? at h
  split at h
  · cases h
  · cases h
    exact ⟨‹_›, rfl⟩

end Session
end MqttRouting
