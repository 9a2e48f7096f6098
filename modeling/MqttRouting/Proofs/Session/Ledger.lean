import MqttRouting.Proofs.Dispatcher.History
import MqttRouting.Proofs.Session.Moves

/-!
The books of a worker. What the queue has accepted splits into what the worker has handled,
what was lost with it and what still waits, in this order; and every caller hears what became
of its own declaration, or that it was lost. The books are kept along a run: one lemma says how
each move adds to them, and the run lemma follows by induction.
-/

namespace MqttRouting

variable {ν : Type}

/-! What is written down. -/

/-- The call that an entry comes from. -/
def Entry.call? (entry : Entry ν) : Option (Nat × Declaration ν) :=
  match entry.command, entry.caller with
  | .add declaration, some caller => some (caller, declaration)
  | _, _ => none

/-- A command that the worker has taken, what the dispatcher made of it, and how the requests
were answered until now. -/
structure Turn (ν : Type) where
  entry : Entry ν
  effect : Effect ν
  answers : List (Request × Answer) := []

namespace Turn

def told (turn : Turn ν) : Option (Nat × CallResult) :=
  Session.told turn.entry.caller (turn.effect.outcome turn.answers)

/-- All requests of the command are answered. -/
def Complete (turn : Turn ν) : Prop := turn.answers.map Prod.fst = turn.effect.requests

end Turn

structure Ledger (ν : Type) where
  accepted : List (Entry ν)
  /-- What the worker is done with. -/
  settled : List (Turn ν) := []
  /-- What the worker is at. -/
  current : Option (Turn ν) := none
  lost : List (Entry ν) := []
  /-- Calls that came when the worker had ended. -/
  late : List (Nat × Declaration ν) := []

namespace Ledger

def turns (l : Ledger ν) : List (Turn ν) := l.settled ++ l.current.toList

def handled (l : Ledger ν) : List (Entry ν) := l.turns.map Turn.entry

def asked (l : Ledger ν) : List (Request × Answer) := l.turns.flatMap Turn.answers

def calls (l : Ledger ν) : List (Nat × Declaration ν) :=
  l.accepted.filterMap Entry.call? ++ l.late

def results (l : Ledger ν) : List (Nat × CallResult) :=
  l.settled.filterMap Turn.told ++
    l.lost.filterMap (fun entry => Session.told entry.caller (some (.lost .responseLost))) ++
    l.late.map fun call => (call.1, .lost .channelClosed)

/-- One more turn is settled while nothing is lost. -/
theorem results_settle {l : Ledger ν} (intact : l.lost = [] ∧ l.late = []) (turn : Turn ν)
    (current : Option (Turn ν)) :
    results { l with settled := l.settled ++ [turn], current } = l.results ++ turn.told.toList := by
  cases told : turn.told <;> simp [results, intact, told]

/-- How a ledger grows. -/
structure Grows (l l' : Ledger ν) (accepted handled : List (Entry ν))
    (asked : List (Request × Answer)) (calls : List (Nat × Declaration ν)) : Prop where
  accepted : l'.accepted = l.accepted ++ accepted
  handled : l'.handled = l.handled ++ handled
  asked : l'.asked = l.asked ++ asked
  calls : l'.calls = l.calls ++ calls

theorem Grows.refl (l : Ledger ν) : Grows l l [] [] [] [] := by
  constructor <;> exact (List.append_nil _).symm

theorem Grows.trans {l l' l'' : Ledger ν} {accepted accepted' handled handled' : List (Entry ν)}
    {asked asked' : List (Request × Answer)} {calls calls' : List (Nat × Declaration ν)}
    (h : Grows l l' accepted handled asked calls)
    (h' : Grows l' l'' accepted' handled' asked' calls') :
    Grows l l'' (accepted ++ accepted') (handled ++ handled') (asked ++ asked')
      (calls ++ calls') := by
  constructor
  · rw [h'.accepted, h.accepted, List.append_assoc]
  · rw [h'.handled, h.handled, List.append_assoc]
  · rw [h'.asked, h.asked, List.append_assoc]
  · rw [h'.calls, h.calls, List.append_assoc]

theorem Grows.of_lost (l : Ledger ν) (lost : List (Entry ν)) :
    l.Grows { l with lost } [] [] [] [] := by
  constructor <;> exact (List.append_nil _).symm

theorem Grows.of_accepted {l : Ledger ν} (late : l.late = []) (entry : Entry ν) :
    l.Grows { l with accepted := l.accepted ++ [entry] } [entry] [] [] entry.call?.toList := by
  refine ⟨rfl, (List.append_nil _).symm, (List.append_nil _).symm, ?_⟩
  cases call : entry.call? <;> simp [Ledger.calls, late, call]

theorem Grows.of_late (l : Ledger ν) (call : Nat × Declaration ν) :
    l.Grows { l with late := l.late ++ [call] } [] [] [] [call] := by
  refine ⟨(List.append_nil _).symm, (List.append_nil _).symm, (List.append_nil _).symm, ?_⟩
  rw [Ledger.calls, Ledger.calls, List.append_assoc]

end Ledger

namespace Session

variable {s t : Session ν} {d : Dispatcher ν} {l : Ledger ν}

/-! What a move adds. -/

/-- What a move puts into the queue. -/
def accepts (s : Session ν) : Move ν → List (Entry ν)
  | .passEvent =>
    if s.workerEnded then [] else (s.loop.held.map fun e => ⟨.event e, none⟩).toList
  | .add caller declaration => if s.workerEnded then [] else [⟨.add declaration, some caller⟩]
  | _ => []

theorem accepts_passEvent (alive : s.stage ≠ .ended) {e : Event} (held : s.loop.held = some e) :
    s.accepts .passEvent = [⟨.event e, none⟩] := by
  rw [accepts, if_neg fun ended => alive (workerEnded_iff.mp ended), held]
  rfl

theorem accepts_add (alive : s.stage ≠ .ended) (caller : Nat) (declaration : Declaration ν) :
    s.accepts (.add caller declaration) = [⟨.add declaration, some caller⟩] := by
  rw [accepts, if_neg fun ended => alive (workerEnded_iff.mp ended)]

/-- What a move takes out of it. -/
def takes (s : Session ν) : Move ν → List (Entry ν)
  | .takeCommand => s.commands.head?.toList
  | _ => []

/-- What a move hands over to the client, with the answer. -/
def asks (s : Session ν) : Move ν → List (Request × Answer)
  | .handOver =>
    match s.stage with
    | .requesting pass => [(pass.current, (s.sender.take pass.current).1)]
    | .ready | .draining | .ended => []
  | _ => []

def Move.call? : Move ν → Option (Nat × Declaration ν)
  | .add caller declaration => some (caller, declaration)
  | _ => none

/-- All that the moves of a run add, in order. -/
def along [Topic.Engine] {α : Type} (f : Session ν → Move ν → List α) (s : Session ν) :
    List (Move ν) → List α
  | [] => []
  | m :: rest =>
    match s.move? m with
    | some t => f s m ++ t.along f rest
    | none => []

theorem along_cons [Topic.Engine] {α : Type} (f : Session ν → Move ν → List α) {m : Move ν}
    (moved : s.move? m = some t) (rest : List (Move ν)) :
    s.along f (m :: rest) = f s m ++ t.along f rest := by
  rw [along, moved]

theorem along_append [Topic.Engine] {α : Type} (f : Session ν → Move ν → List α)
    {front : List (Move ν)} (moved : s.run? front = some t) (back : List (Move ν)) :
    s.along f (front ++ back) = s.along f front ++ t.along f back := by
  induction front generalizing s with
  | nil =>
      cases moved
      rfl
  | cons m rest ih =>
      obtain ⟨next, first, moved⟩ := Option.bind_eq_some_iff.mp moved
      rw [List.cons_append, along_cons f first, along_cons f first, ih moved, List.append_assoc]

/-! Keeping the books. -/

/-- The turn that a stage is about. -/
inductive Attends : Stage → Option (Turn ν) → Prop where
  | nothing {stage : Stage} : (∀ pass, stage ≠ .requesting pass) → Attends stage none
  | pass {p : Pass} {answered : List (Request × Answer)} {r : Request} {rest : List Request}
      (entry : Entry ν) : p.requests = answered.map Prod.fst ++ r :: rest →
      Attends (.requesting ⟨p.registered, answered, r, rest, entry.caller⟩)
        (some ⟨entry, .pass p, answered⟩)

theorem Attends.idle {stage : Stage} {current : Option (Turn ν)} (h : Attends stage current)
    (noPass : ∀ pass, stage ≠ .requesting pass) : current = none := by
  cases h with
  | nothing => rfl
  | pass entry requests => exact absurd rfl (noPass _)

theorem Attends.underway {pass : Underway} {current : Option (Turn ν)}
    (h : Attends (.requesting pass) current) :
    ∃ entry p, current = some ⟨entry, .pass p, pass.answered⟩ ∧
      p.requests = pass.answered.map Prod.fst ++ pass.current :: pass.rest ∧
      pass.registered = p.registered ∧ pass.caller = entry.caller := by
  cases h with
  | nothing noPass => exact absurd rfl (noPass pass)
  | @pass p _ _ _ entry requests => exact ⟨entry, p, rfl, requests, rfl, rfl⟩

variable [Topic.Engine]

/-- How the books stand for a session that began with a dispatcher. -/
structure Keeps (d : Dispatcher ν) (l : Ledger ν) (s : Session ν) : Prop where
  order : l.accepted = l.handled ++ l.lost ++ s.commands
  effects : d.run (l.handled.map Entry.command) = (l.turns.map Turn.effect, s.dispatcher)
  complete : ∀ turn ∈ l.settled, turn.Complete
  current : Attends s.stage l.current
  results : s.results = l.results
  /-- Nothing waits for a worker that has ended. -/
  emptied : s.stage = .ended → s.commands = []
  /-- Nothing is lost as long as there is one. -/
  intact : s.stage ≠ .ended → l.lost = [] ∧ l.late = []
  /-- Only calls have a caller. -/
  callers : ∀ entry ∈ l.accepted, entry.caller = entry.call?.map Prod.fst

namespace Keeps

/-- A move that touches none of what is in the books. -/
theorem frame (h : Keeps d l s) (commands : t.commands = s.commands) (stage : t.stage = s.stage)
    (dispatcher : t.dispatcher = s.dispatcher) (results : t.results = s.results) :
    Keeps d l t := by
  constructor
  · rw [commands, h.order]
  · rw [dispatcher, h.effects]
  · exact h.complete
  · rw [stage]
    exact h.current
  · rw [results, h.results]
  · rw [stage, commands]
    exact h.emptied
  · rw [stage]
    exact h.intact
  · exact h.callers

/-- The worker begins to wait for its handlers. -/
theorem drain (h : Keeps d l s) (ready : s.stage = .ready) (activity : Activity ν) :
    Keeps d l { s with stage := .draining, activity } := by
  have none := h.current.idle (by simp [ready])
  refine ⟨h.order, h.effects, h.complete, ?_, h.results, nofun,
    fun _ => h.intact (by simp [ready]), h.callers⟩
  rw [none]
  exact .nothing nofun

/-- The worker ends, and what waits is lost. -/
theorem lose (h : Keeps d l s) (noPass : ∀ pass, s.stage ≠ .requesting pass)
    (alive : s.stage ≠ .ended) (activity : Activity ν) :
    Keeps d { l with lost := s.commands } { s with
      stage := .ended, commands := [], activity
      results := s.results ++
        s.commands.filterMap fun entry => told entry.caller (some (.lost .responseLost)) } := by
  obtain ⟨none, late⟩ := h.intact alive
  refine ⟨?_, h.effects, h.complete, ?_, ?_, fun _ => rfl, fun alive => absurd rfl alive,
    h.callers⟩
  · rw [List.append_nil, h.order, none, List.append_nil]
    rfl
  · rw [h.current.idle noPass]
    exact .nothing nofun
  · simp [h.results, Ledger.results, none, late]

/-- One more entry waits. -/
theorem accept (h : Keeps d l s) (alive : s.stage ≠ .ended) (entry : Entry ν)
    (caller : entry.caller = entry.call?.map Prod.fst) (loop : EventLoop) :
    Keeps d { l with accepted := l.accepted ++ [entry] }
      { s with commands := s.commands ++ [entry], loop } := by
  refine ⟨?_, h.effects, h.complete, h.current, h.results, fun ended => absurd ended alive,
    h.intact, ?_⟩
  · rw [h.order, List.append_assoc]
    rfl
  · intro other mem
    rcases List.mem_append.mp mem with mem | mem
    · exact h.callers other mem
    · rw [List.mem_singleton.mp mem, caller]

/-- The effect of the next command is the one of a step from where the dispatcher is. -/
theorem effects_snoc (h : Keeps d l s) (command : Command ν) :
    d.run (l.handled.map Entry.command ++ [command]) =
      (l.turns.map Turn.effect ++ [(s.dispatcher.step command).1],
        (s.dispatcher.step command).2.2) := by
  rw [Dispatcher.run_append, h.effects]
  rfl

theorem takeCommand (h : Keeps d l s) (moved : s.takeCommand? = some t) :
    ∃ l', Keeps d l' t ∧ l.Grows l' [] (s.takes .takeCommand) [] [] := by
  obtain ⟨entry, rest, ready, waiting, rfl⟩ := takeCommand_inv moved
  have idle := h.current.idle (by simp [ready])
  have intact := h.intact (by simp [ready])
  have taken : s.takes .takeCommand = [entry] := by
    rw [takes, waiting]
    rfl
  have order : l.accepted = l.handled ++ [entry] ++ l.lost ++ rest := by
    rw [h.order, waiting, intact.1]
    simp
  have effects := h.effects_snoc entry.command
  rw [taken]
  obtain ⟨_, _, _, ⟨noRequests, done⟩ | ⟨p, r, more, effect, requests, begun⟩⟩ :=
    carryOut_eq (s := { s with commands := rest }) ready entry
  · refine ⟨{ l with
      settled := l.settled ++ [⟨entry, (s.dispatcher.step entry.command).1, []⟩] }, ?_, ?_⟩
    · rw [done]
      constructor
      · simpa [Ledger.handled, Ledger.turns, idle] using order
      · simpa [Ledger.handled, Ledger.turns, idle] using effects
      · intro turn mem
        rcases List.mem_append.mp mem with mem | mem
        · exact h.complete turn mem
        · rw [List.mem_singleton.mp mem]
          exact noRequests.symm
      · rw [idle]
        exact .nothing nofun
      · rw [Ledger.results_settle intact, ← h.results]
        rfl
      · exact nofun
      · exact fun _ => intact
      · exact h.callers
    · constructor <;> simp [Ledger.handled, Ledger.asked, Ledger.calls, Ledger.turns, idle]
  · refine ⟨{ l with current := some ⟨entry, .pass p, []⟩ }, ?_, ?_⟩
    · rw [begun]
      rw [effect] at effects
      constructor
      · simpa [Ledger.handled, Ledger.turns, idle] using order
      · simpa [Ledger.handled, Ledger.turns, idle] using effects
      · exact h.complete
      · exact .pass entry requests
      · exact h.results
      · exact nofun
      · exact fun _ => intact
      · exact h.callers
    · constructor <;> simp [Ledger.handled, Ledger.asked, Ledger.calls, Ledger.turns, idle]

theorem handOver (h : Keeps d l s) (moved : s.handOver? = some t) :
    ∃ l', Keeps d l' t ∧ l.Grows l' [] [] (s.asks .handOver) [] := by
  obtain ⟨pass, stage, _, activity, after⟩ := handOver_eq moved
  have intact := h.intact (by simp [stage])
  have attends := h.current
  rw [stage] at attends
  obtain ⟨entry, p, current, requests, registered, caller⟩ := attends.underway
  have asked : s.asks .handOver = [(pass.current, (s.sender.take pass.current).1)] := by
    rw [asks, stage]
  rw [asked]
  generalize (s.sender.take pass.current).1 = answer at after ⊢
  have effects := h.effects
  have order := h.order
  obtain ⟨last, rfl⟩ | ⟨r, more, rest, rfl⟩ := after
  · refine ⟨{ l with
      settled := l.settled ++ [⟨entry, .pass p, pass.answered ++ [(pass.current, answer)]⟩]
      current := none }, ?_, ?_⟩
    · constructor
      · simpa [Ledger.handled, Ledger.turns, current] using order
      · simpa [Ledger.handled, Ledger.turns, current] using effects
      · intro turn mem
        rcases List.mem_append.mp mem with mem | mem
        · exact h.complete turn mem
        · rw [List.mem_singleton.mp mem]
          simp [Turn.Complete, Effect.requests, requests, last]
      · exact .nothing nofun
      · rw [Ledger.results_settle intact, ← h.results, Turn.told, registered, caller]
        rfl
      · exact nofun
      · exact fun _ => intact
      · exact h.callers
    · constructor <;>
        simp [Ledger.handled, Ledger.asked, Ledger.calls, Ledger.turns, current]
  · refine ⟨{ l with
      current := some ⟨entry, .pass p, pass.answered ++ [(pass.current, answer)]⟩ }, ?_, ?_⟩
    · constructor
      · simpa [Ledger.handled, Ledger.turns, current] using order
      · simpa [Ledger.handled, Ledger.turns, current] using effects
      · exact h.complete
      · rw [registered, caller]
        exact .pass entry (by simp [requests, rest])
      · exact h.results
      · exact nofun
      · exact fun _ => intact
      · exact h.callers
    · constructor <;>
        simp [Ledger.handled, Ledger.asked, Ledger.calls, Ledger.turns, current]

theorem leave (h : Keeps d l s) (ready : s.stage = .ready) (cause : Notice) :
    ∃ l', Keeps d l' (s.leave cause) ∧ l.Grows l' [] [] [] [] := by
  obtain ⟨activity, left | left⟩ := leave_eq s cause
  · rw [left]
    exact ⟨l, h.drain ready activity, .refl l⟩
  · rw [left]
    exact ⟨_, h.lose (by simp [ready]) (by simp [ready]) activity, .of_lost l s.commands⟩

theorem endWorker (h : Keeps d l s) (draining : s.stage = .draining) (activity : Activity ν) :
    ∃ l', Keeps d l' { s with activity }.endWorker ∧ l.Grows l' [] [] [] [] :=
  ⟨_, h.lose (by simp [draining]) (by simp [draining]) activity, .of_lost l s.commands⟩

theorem passEvent (h : Keeps d l s) (moved : s.passEvent? = some t) :
    ∃ l', Keeps d l' t ∧ l.Grows l' (s.accepts .passEvent) [] [] [] := by
  obtain ⟨e, held, ⟨ended, _, rfl⟩ | ⟨alive, _, rfl⟩⟩ := passEvent_inv moved
  · have nothing : s.accepts .passEvent = [] := by
      rw [accepts, if_pos (workerEnded_iff.mpr ended)]
    rw [nothing]
    exact ⟨l, h.frame rfl rfl rfl rfl, .refl l⟩
  · rw [accepts_passEvent alive held]
    exact ⟨_, h.accept alive ⟨.event e, none⟩ rfl _, .of_accepted (h.intact alive).2 _⟩

theorem add (h : Keeps d l s) {caller : Nat} {declaration : Declaration ν}
    (moved : s.add? caller declaration = some t) :
    ∃ l', Keeps d l' t ∧
      l.Grows l' (s.accepts (.add caller declaration)) [] [] [(caller, declaration)] := by
  obtain ⟨_, ⟨ended, rfl⟩ | ⟨alive, _, rfl⟩⟩ := add_inv moved
  · have nothing : s.accepts (.add caller declaration) = [] := by
      rw [accepts, if_pos (workerEnded_iff.mpr ended)]
    rw [nothing]
    refine ⟨{ l with late := l.late ++ [(caller, declaration)] }, ?_, .of_late l _⟩
    refine ⟨h.order, h.effects, h.complete, h.current, ?_, h.emptied,
      fun alive => absurd ended alive, h.callers⟩
    rw [reply_eq]
    simp [h.results, Ledger.results, told]
  · rw [accepts_add alive]
    exact ⟨_, h.accept alive ⟨.add declaration, some caller⟩ rfl s.loop,
      .of_accepted (h.intact alive).2 _⟩

/-- Every move adds to the books what it does. -/
theorem move (h : Keeps d l s) {m : Move ν} (moved : s.move? m = some t) :
    ∃ l', Keeps d l' t ∧ l.Grows l' (s.accepts m) (s.takes m) (s.asks m) m.call?.toList := by
  cases m with
  | takeCommand => exact h.takeCommand moved
  | handOver => exact h.handOver moved
  | stop =>
      obtain ⟨ready, _, rfl⟩ := stop_inv moved
      exact h.leave ready _
  | closeCommands =>
      obtain ⟨ready, _, _, _, rfl⟩ := closeCommands_inv moved
      exact h.leave ready _
  | collect =>
      obtain ⟨_, _, _, rfl⟩ := collect_inv moved
      exact ⟨l, h.frame rfl rfl rfl rfl, .refl l⟩
  | drained =>
      obtain ⟨draining, rfl⟩ := drained_inv moved
      exact h.endWorker draining s.activity
  | giveUp =>
      obtain ⟨draining, rfl⟩ := giveUp_inv moved
      exact h.endWorker draining _
  | sendRequest =>
      obtain ⟨_, _, first, _, _, _, sent⟩ := sendRequest_inv moved
      cases first with
      | subscribe r =>
          obtain ⟨_, _, rfl⟩ := sent
          exact ⟨l, h.frame rfl rfl rfl rfl, .refl l⟩
      | disconnect =>
          obtain ⟨_, rfl⟩ := sent
          exact ⟨l, h.frame rfl rfl rfl rfl, .refl l⟩
  | poll =>
      obtain ⟨_, _, first, _, _, _, polled⟩ := poll_inv moved
      cases first <;> cases polled <;> exact ⟨l, h.frame rfl rfl rfl rfl, .refl l⟩
  | passEvent => exact h.passEvent moved
  | shutdown =>
      obtain ⟨_, _, rfl⟩ := shutdown_inv moved
      exact ⟨l, h.frame rfl rfl rfl rfl, .refl l⟩
  | disconnect =>
      obtain ⟨_, _, _, ⟨_, rfl⟩ | ⟨_, _, rfl⟩⟩ := disconnect_inv moved
      · exact ⟨l, h.frame rfl rfl rfl rfl, .refl l⟩
      · exact ⟨l, h.frame rfl rfl rfl rfl, .refl l⟩
  | close =>
      obtain ⟨_, _, _, rfl⟩ := close_inv moved
      exact ⟨l, h.frame rfl rfl rfl rfl, .refl l⟩
  | release =>
      obtain ⟨_, _, rfl⟩ := release_inv moved
      exact ⟨l, h.frame rfl rfl rfl rfl, .refl l⟩
  | arrive packet =>
      obtain ⟨_, rfl⟩ := arrive_inv moved
      exact ⟨l, h.frame rfl rfl rfl rfl, .refl l⟩
  | add caller declaration => exact h.add moved
  | dropHandle =>
      obtain ⟨_, rfl⟩ := dropHandle_inv moved
      exact ⟨l, h.frame rfl rfl rfl rfl, .refl l⟩
  | permit n =>
      cases moved
      exact ⟨l, h.frame rfl rfl rfl rfl, .refl l⟩

/-- The books of a run hold all that its moves add. -/
theorem run (h : Keeps d l s) {moves : List (Move ν)} (moved : s.run? moves = some t) :
    ∃ l', Keeps d l' t ∧ l.Grows l' (s.along accepts moves) (s.along takes moves)
      (s.along asks moves) (moves.filterMap Move.call?) := by
  induction moves generalizing s l with
  | nil =>
      cases moved
      exact ⟨l, h, .refl l⟩
  | cons m rest ih =>
      obtain ⟨next, first, moved⟩ := Option.bind_eq_some_iff.mp moved
      obtain ⟨l', kept, grows⟩ := h.move first
      obtain ⟨l'', kept, more⟩ := ih kept moved
      refine ⟨l'', kept, ?_⟩
      have calls : (m :: rest).filterMap Move.call? =
          m.call?.toList ++ rest.filterMap Move.call? := by
        rw [List.filterMap_cons]
        cases m.call? <;> rfl
      rw [calls, along_cons _ first, along_cons _ first, along_cons _ first]
      exact grows.trans more

end Keeps
end Session
end MqttRouting
