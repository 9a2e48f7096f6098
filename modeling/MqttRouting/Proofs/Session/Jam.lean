import Mathlib
import MqttRouting.Proofs.Session.Capacity
import MqttRouting.Topic.Engine.Sized

/-!
How a deadlock comes about. A registration pass fills the queue of requests; messages that
arrive meanwhile fill the queue of commands, since the worker is busy with the pass, and one
more of them keeps the event loop from sending a single request. If one pass is not enough,
each reconnect without the old session brings another one. Nobody needs to add a declaration.
-/

namespace MqttRouting.Session

variable {ν : Type} {s t u : Session ν}

/-! Runs in which no declaration is added. -/

def Move.adds : Move ν → Bool
  | .add _ _ => true
  | _ => false

section

variable [Topic.Engine]

/-- One session leads to another by moves of which none adds a declaration. -/
def LeadsTo (s t : Session ν) : Prop :=
  ∃ moves, (∀ m ∈ moves, m.adds = false) ∧ s.run? moves = some t

namespace LeadsTo

theorem refl (s : Session ν) : LeadsTo s s := ⟨[], nofun, rfl⟩

theorem single (m : Move ν) (moved : s.move? m = some t) (fixed : m.adds = false) :
    LeadsTo s t := by
  refine ⟨[m], by simpa using fixed, ?_⟩
  rw [run?, moved]
  rfl

theorem trans (h : LeadsTo s t) (h' : LeadsTo t u) : LeadsTo s u := by
  obtain ⟨moves, fixed, run⟩ := h
  obtain ⟨moves', fixed', run'⟩ := h'
  refine ⟨moves ++ moves', List.forall_mem_append.mpr ⟨fixed, fixed'⟩, ?_⟩
  rw [run?_append, run]
  exact run'

theorem reaches (h : LeadsTo s t) : Reaches s t := by
  obtain ⟨moves, _, run⟩ := h
  exact .of_run? run

end LeadsTo

/-! What arrives. -/

/-- The event loop is idle, and nothing has come from the broker. -/
structure Idle (s : Session ν) : Prop where
  attached : s.sender.attached = true
  runs : s.loop.ended = false
  free : s.loop.held = none
  silent : s.loop.inbound = []

/-- Nothing changes but what the event loop holds, and what the tracker knows. -/
structure Beside (s t : Session ν) : Prop where
  limits : t.limits = s.limits
  dispatcher : t.dispatcher = s.dispatcher
  stage : t.stage = s.stage
  commands : t.commands = s.commands
  requests : t.sender.requests = s.sender.requests
  attached : t.sender.attached = s.sender.attached
  ended : t.loop.ended = s.loop.ended
  inbound : t.loop.inbound = s.loop.inbound

theorem Idle.receive (h : s.Idle) (packet : Incoming) :
    ∃ arrived t, s.arrive? packet = some arrived ∧ arrived.poll? = some t ∧ LeadsTo s t ∧
      arrived = { s with loop := { s.loop with inbound := [packet] } } := by
  have arrives : s.arrive? packet = some { s with loop := { s.loop with inbound := [packet] } } := by
    simp [arrive?, h.runs, h.silent]
  obtain ⟨t, polled⟩ := poll?_isSome
    (s := { s with loop := { s.loop with inbound := [packet] } }) h.runs h.free rfl
  exact ⟨_, t, arrives, polled,
    (LeadsTo.single (.arrive packet) arrives rfl).trans (.single .poll polled rfl), rfl⟩

theorem Idle.publish (h : s.Idle) (p : Packet) :
    ∃ t, LeadsTo s t ∧ Beside s t ∧ ∃ m, t.loop.held = some (.message m) := by
  obtain ⟨_, t, _, polled, leads, rfl⟩ := h.receive (.publish p)
  obtain ⟨_, _, _, _, _, inbound, same⟩ := poll_inv polled
  cases inbound
  cases same
  exact ⟨_, leads, ⟨rfl, rfl, rfl, rfl, rfl, rfl, rfl, h.silent.symm⟩, _, rfl⟩

theorem Idle.lostSession (h : s.Idle) :
    ∃ t, LeadsTo s t ∧ Beside s t ∧ t.loop.held = some (.connected false) := by
  obtain ⟨_, t, _, polled, leads, rfl⟩ := h.receive (.connAck false)
  obtain ⟨_, _, _, _, _, inbound, same⟩ := poll_inv polled
  cases inbound
  cases same
  exact ⟨_, leads, ⟨rfl, rfl, rfl, rfl, rfl, rfl, rfl, h.silent.symm⟩, rfl⟩

theorem leadsTo_pass {e : Event} (held : s.loop.held = some e) (works : s.InLoop)
    (room : s.hasCommandRoom = true) :
    LeadsTo s { s with
      commands := s.commands ++ [⟨.event e, none⟩], loop := { s.loop with held := none } } := by
  have alive : s.workerEnded = false := by
    rw [← Bool.not_eq_true, workerEnded_iff]
    rintro finished
    simp [InLoop, finished] at works
  refine .single .passEvent ?_ rfl
  simp [move?, passEvent?, held, alive, room]

/-! The queue of commands fills up. -/

/-- While the worker is stuck in a pass, messages fill the queue of commands, and one more
completes a deadlock. -/
theorem Idle.jam (idle : s.Idle) {pass : Underway} (stage : s.stage = .requesting pass)
    (full : s.hasRequestRoom = false) : ∃ t, LeadsTo s t ∧ t.Deadlocked := by
  generalize room : s.limits.commands - s.commands.length = n
  induction n generalizing s with
  | zero =>
      obtain ⟨t, leads, beside, m, held⟩ := idle.publish { topic := "" }
      refine ⟨t, leads, ⟨pass, beside.stage.trans stage⟩, beside.attached.trans idle.attached, ?_,
        beside.ended.trans idle.runs, ⟨_, held⟩, ?_⟩
      · rw [hasRequestRoom, beside.requests, beside.limits]
        exact full
      · rw [hasCommandRoom, beside.commands, beside.limits]
        simp
        omega
  | succ n ih =>
      obtain ⟨t, leads, beside, m, held⟩ := idle.publish { topic := "" }
      have free : t.hasCommandRoom = true := by
        rw [hasCommandRoom, beside.commands, beside.limits]
        simp
        omega
      have passes := leadsTo_pass held (.inr ⟨pass, beside.stage.trans stage⟩) free
      obtain ⟨u, leads', deadlocked⟩ := ih
        (s := { t with
          commands := t.commands ++ [⟨.event (.message m), none⟩]
          loop := { t.loop with held := none } })
        ⟨beside.attached.trans idle.attached, beside.ended.trans idle.runs, rfl,
          beside.inbound.trans idle.silent⟩
        (beside.stage.trans stage)
        (by
          change decide (t.sender.requests.length < t.limits.requests) = false
          rw [beside.requests, beside.limits]
          exact full)
        (by
          simp only [List.length_append, List.length_singleton, beside.commands, beside.limits]
          omega)
      exact ⟨u, (leads.trans passes).trans leads', deadlocked⟩

end

/-! The queue of requests fills up. -/

theorem underway_iff {n : Nat} : s.underway = n + 1 ↔
    ∃ pass, s.stage = .requesting pass ∧ pass.rest.length = n := by
  unfold underway
  cases s.stage <;> simp

theorem ready_of_not_underway (inside : s.InLoop) (none : s.underway = 0) : s.stage = .ready := by
  obtain ready | ⟨pass, stage⟩ := inside
  · exact ready
  · simp [underway, stage] at none

/-- So many requests of a pass have been handed over, and nothing else has happened. -/
structure HandedOver (n : Nat) (s t : Session ν) : Prop where
  idle : t.Idle
  inLoop : t.InLoop
  underway : t.underway + n = s.underway
  requests : t.sender.requests.length = s.sender.requests.length + n
  limits : t.limits = s.limits
  dispatcher : t.dispatcher = s.dispatcher
  commands : t.commands = s.commands

section

variable [Topic.Engine]

theorem Idle.handOver (idle : s.Idle) {n : Nat} (busy : s.underway = n + 1)
    (room : s.sender.requests.length < s.limits.requests) :
    ∃ t, LeadsTo s t ∧ HandedOver 1 s t := by
  obtain ⟨pass, stage, rest⟩ := underway_iff.mp busy
  have takes : (s.sender.take pass.current).2 =
      { s.sender with requests := s.sender.requests ++ [.subscribe pass.current] } := by
    rw [Sender.take, if_pos idle.attached]
  cases taken : s.handOver? with
  | none =>
      obtain ⟨_, full⟩ := (handOver?_none stage).mp taken
      simp [hasRequestRoom] at full
      omega
  | some t =>
      refine ⟨t, .single .handOver taken rfl, ?_⟩
      obtain ⟨pass', stage', _, _, _, after⟩ := handOver_inv taken
      cases stage.symm.trans stage'
      rw [takes] at after
      obtain ⟨last, rfl⟩ | ⟨_, r, more, next, rfl⟩ := after
      · rw [last] at rest
        subst rest
        exact ⟨⟨idle.attached, idle.runs, idle.free, idle.silent⟩, .inl rfl, busy.symm,
          List.length_append, rfl, rfl, rfl⟩
      · rw [next] at rest
        subst rest
        exact ⟨⟨idle.attached, idle.runs, idle.free, idle.silent⟩, .inr ⟨_, rfl⟩, busy.symm,
          List.length_append, rfl, rfl, rfl⟩

theorem Idle.handOvers (idle : s.Idle) (inside : s.InLoop) {n : Nat} (few : n ≤ s.underway)
    (room : s.sender.requests.length + n ≤ s.limits.requests) :
    ∃ t, LeadsTo s t ∧ HandedOver n s t := by
  induction n with
  | zero => exact ⟨s, .refl s, idle, inside, rfl, rfl, rfl, rfl, rfl⟩
  | succ n ih =>
      obtain ⟨t, leads, before⟩ := ih (by omega) (by omega)
      have underway := before.underway
      have requests := before.requests
      have busy : t.underway = s.underway - n - 1 + 1 := by omega
      obtain ⟨u, leads', after⟩ := before.idle.handOver busy (by rw [before.limits]; omega)
      have underway' := after.underway
      have requests' := after.requests
      exact ⟨u, leads.trans leads', after.idle, after.inLoop, by omega, by omega,
        after.limits.trans before.limits, after.dispatcher.trans before.dispatcher,
        after.commands.trans before.commands⟩

end

/-! One pass after the other. -/

/-- A pass has begun, and its dispatcher stands as it should. -/
structure Begun (d : Dispatcher ν) (s t : Session ν) : Prop where
  idle : t.Idle
  inLoop : t.InLoop
  limits : t.limits = s.limits
  requests : t.sender.requests = s.sender.requests
  commands : t.commands = []
  dispatcher : t.dispatcher = d

theorem Idle.beginPass [Topic.Engine] (idle : s.Idle) (ready : s.stage = .ready)
    {sessionPresent : Bool} (told : s.commands = [⟨.event (.connected sessionPresent), none⟩])
    (asks : 0 < (s.dispatcher.connected sessionPresent).1.requests.length) :
    ∃ t, LeadsTo s t ∧ Begun (s.dispatcher.connected sessionPresent).2.2 s t ∧
      t.underway = (s.dispatcher.connected sessionPresent).1.requests.length := by
  have takes : s.takeCommand? =
      some ({ s with commands := [] }.carryOut ⟨.event (.connected sessionPresent), none⟩) := by
    simp [takeCommand?, isReady_iff.mpr ready, told]
  refine ⟨_, .single .takeCommand takes rfl, ?_⟩
  obtain ⟨_, _, _, _, ⟨requests, _⟩ | ⟨_, r, more, requests, begun⟩⟩ :=
    carryOut_inv (s := { s with commands := [] }) ready ⟨.event (.connected sessionPresent), none⟩
  · have none : (s.dispatcher.connected sessionPresent).1.requests = [] := requests
    simp [none] at asks
  · rw [begun]
    refine ⟨⟨⟨idle.attached, idle.runs, idle.free, idle.silent⟩, .inr ⟨_, rfl⟩, rfl, rfl, rfl,
      rfl⟩, ?_⟩
    have all : (s.dispatcher.connected sessionPresent).1.requests = r :: more := requests
    rw [all]
    rfl

/-- The connection has stood, and something is registered. -/
structure Registered (d : Dispatcher ν) : Prop where
  active : d.lifecycle = .active
  nonempty : 0 < d.registry.entries.length

theorem registered_connected (d : Dispatcher ν) {sessionPresent : Bool}
    (asks : 0 < (d.connected sessionPresent).1.requests.length) :
    Registered (d.connected sessionPresent).2.2 :=
  ⟨rfl, Nat.lt_of_lt_of_le asks (d.connected_requests sessionPresent).2.1⟩

section

variable [Topic.Engine]

/-- A reconnect without the old session brings another pass, if the settings want that. -/
theorem Idle.reconnect (idle : s.Idle) (ready : s.stage = .ready) (empty : s.commands = [])
    (capacity : 0 < s.limits.commands) (registered : Registered s.dispatcher)
    (again : s.dispatcher.settings.resubscribeOnSessionLoss = true) :
    ∃ t, LeadsTo s t ∧ Begun (s.dispatcher.connected false).2.2 s t ∧ 0 < t.underway ∧
      Registered t.dispatcher := by
  have asks : 0 < (s.dispatcher.connected false).1.requests.length := by
    have known := (s.dispatcher.connected_requests false).1
    simp only [Dispatcher.connected, registered.active, again] at known ⊢
    simpa using Nat.lt_of_lt_of_le registered.nonempty known
  obtain ⟨t, leads, beside, held⟩ := idle.lostSession
  have room : t.hasCommandRoom = true := by
    simpa [hasCommandRoom, beside.commands, beside.limits, empty] using capacity
  have passes := leadsTo_pass held (.inl (beside.stage.trans ready)) room
  rw [beside.commands, empty, List.nil_append] at passes
  rw [← beside.dispatcher] at asks ⊢
  obtain ⟨u, leads', ⟨idle', inLoop, limits, requests, commands, dispatcher⟩, busy⟩ :=
    beginPass (s := { t with
        commands := [⟨.event (.connected false), none⟩], loop := { t.loop with held := none } })
      ⟨beside.attached.trans idle.attached, beside.ended.trans idle.runs, rfl,
        beside.inbound.trans idle.silent⟩
      (beside.stage.trans ready) rfl asks
  exact ⟨u, (leads.trans passes).trans leads', ⟨idle', inLoop, limits.trans beside.limits,
    requests.trans beside.requests, commands, dispatcher⟩, busy ▸ asks,
    dispatcher ▸ registered_connected _ asks⟩

/-- A pass under way can end in a deadlock, if its requests are too many for their queue, or
if it is not the last one. -/
theorem Idle.deadlock (idle : s.Idle) (inside : s.InLoop) (busy : 0 < s.underway)
    (room : s.sender.requests.length ≤ s.limits.requests)
    (crowded : s.limits.requests < s.sender.requests.length + s.underway ∨
      0 < s.limits.commands ∧ s.commands = [] ∧ Registered s.dispatcher ∧
        s.dispatcher.settings.resubscribeOnSessionLoss = true) :
    ∃ t, LeadsTo s t ∧ t.Deadlocked := by
  -- each pass that fits into the queue leaves less room for the next one
  induction left : s.limits.requests - s.sender.requests.length using Nat.strongRecOn
    generalizing s with
  | ind n ih =>
      by_cases enough : s.limits.requests < s.sender.requests.length + s.underway
      · obtain ⟨t, leads, filled⟩ := idle.handOvers inside (n := n) (by omega) (by omega)
        have underway := filled.underway
        have requests := filled.requests
        have more : t.underway = t.underway - 1 + 1 := by omega
        obtain ⟨pass, stage, _⟩ := underway_iff.mp more
        have full : t.hasRequestRoom = false := by
          simp [hasRequestRoom, requests, filled.limits]
          omega
        obtain ⟨u, leads', deadlocked⟩ := filled.idle.jam stage full
        exact ⟨u, leads.trans leads', deadlocked⟩
      · obtain ⟨capacity, empty, registered, again⟩ := crowded.resolve_left enough
        obtain ⟨t, leads, finished⟩ := idle.handOvers inside (Nat.le_refl s.underway) (by omega)
        have underway := finished.underway
        have requests := finished.requests
        rw [← finished.dispatcher] at registered again
        obtain ⟨u, leads', begun, busy', registered'⟩ := finished.idle.reconnect
          (ready_of_not_underway finished.inLoop (by omega)) (finished.commands.trans empty)
          (finished.limits ▸ capacity) registered again
        have limits : u.limits = s.limits := begun.limits.trans finished.limits
        have queued := congrArg List.length begun.requests
        have again' : u.dispatcher.settings.resubscribeOnSessionLoss = true := by
          rw [begun.dispatcher]
          exact again
        rw [← limits] at capacity
        obtain ⟨v, leads'', deadlocked⟩ := ih
          (u.limits.requests - u.sender.requests.length) (by rw [limits]; omega) begun.idle
          begun.inLoop busy' (by rw [limits]; omega)
          (.inr ⟨capacity, begun.commands, registered', again'⟩) rfl
        exact ⟨v, (leads.trans leads').trans leads'', deadlocked⟩

/-! Without additions. -/

/-- None of the commands adds a declaration. -/
def OnlyEvents (commands : List (Entry ν)) : Prop :=
  ∀ entry ∈ commands, ∃ e, entry.command = .event e

/-- A move puts nothing but events into the queue of commands, unless it adds a declaration. -/
theorem move_commands {m : Move ν} (h : s.move? m = some t) (fixed : m.adds = false)
    (events : OnlyEvents s.commands) : OnlyEvents t.commands := by
  cases own : m.actor with
  | worker =>
      have taken := worker_commands h own
      exact fun entry mem => events entry (taken.subset mem)
  | eventLoop =>
      obtain same | ⟨e, added⟩ := loop_commands h own
      · rwa [same]
      · rw [added]
        exact List.forall_mem_append.mpr ⟨events, by simp⟩
  | outside =>
      obtain ⟨same | ⟨_, _, _, rfl⟩, _⟩ := outside_queues h own
      · rwa [same]
      · cases fixed

theorem carryOut_dispatcher (ready : s.stage = .ready) (entry : Entry ν) :
    (s.carryOut entry).dispatcher = (s.dispatcher.step entry.command).2.2 := by
  obtain ⟨_, _, _, _, ⟨_, done⟩ | ⟨_, _, _, _, begun⟩⟩ := carryOut_inv ready entry
  · rw [done]
  · rw [begun]

theorem step_event_compiled (d : Dispatcher ν) (e : Event) :
    (d.step (.event e)).2.2.compiled = d.compiled := by
  cases e with
  | connected sessionPresent => rfl
  | message m =>
      rw [Dispatcher.step]
      split <;> rfl
  | subscribeResult wireTopic success => rfl

theorem LeadsTo.compiled (h : LeadsTo s t) (events : OnlyEvents s.commands) :
    t.dispatcher.compiled = s.dispatcher.compiled := by
  obtain ⟨moves, fixed, run⟩ := h
  induction moves generalizing s with
  | nil =>
      cases run
      rfl
  | cons m rest ih =>
      obtain ⟨next, moved, run⟩ := Option.bind_eq_some_iff.mp run
      obtain ⟨first, others⟩ := List.forall_mem_cons.mp fixed
      rw [ih (move_commands moved first events) others run]
      by_cases takes : m = .takeCommand
      · subst takes
        obtain ⟨entry, rest, ready, present, rfl⟩ := takeCommand_inv moved
        obtain ⟨e, told⟩ := events entry (present ▸ List.mem_cons_self ..)
        rw [carryOut_dispatcher (s := { s with commands := rest }) ready, told]
        exact step_event_compiled s.dispatcher e
      · rw [move_dispatcher moved takes]

/-! From the beginning. -/

/-- The first pass asks for every wire topic. -/
theorem first_pass {d : Dispatcher ν} (unused : d.Unused) (sessionPresent : Bool) :
    (d.connected sessionPresent).1.requests.length = (Subscriber.distinct d.compiled).length := by
  rw [unused.reflects.connected_pass sessionPresent]
  simp [Dispatcher.asked, Dispatcher.entered, Dispatcher.hasConnected, Dispatcher.added]

theorem crowded_of_deadlocked {c : Config} {d : Dispatcher ν} {sessionPresent : Bool}
    (unused : d.Unused) (settings : d.settings = c.settings)
    (reached : Reaches (Router.start c d sessionPresent) s) (deadlocked : s.Deadlocked) :
    c.requestCapacity < (Subscriber.distinct s.dispatcher.compiled).length ∨
      c.settings.resubscribeOnSessionLoss = true ∧
        0 < (Subscriber.distinct s.dispatcher.compiled).length := by
  have budgeted : Budgeted d s := by
    refine reached.invariant (fun _ budgeted moved => budgeted.move moved)
      ⟨⟨[], unused.reflects⟩, fun busy => absurd rfl busy, fun _ _ => Nat.zero_le _⟩
  have limits : s.limits = ⟨c.commandCapacity, c.requestCapacity⟩ := reached.invariant
    (P := fun u => u.limits = ⟨c.commandCapacity, c.requestCapacity⟩)
    (fun _ same moved => (move_limits moved).trans same) rfl
  have few := deadlocked.crowded budgeted
  rwa [settings, limits] at few

theorem deadlock_of_crowded {c : Config} {d : Dispatcher ν} (sessionPresent : Bool)
    (unused : d.Unused) (settings : d.settings = c.settings) (capacity : 0 < c.commandCapacity)
    (many : c.requestCapacity < (Subscriber.distinct d.compiled).length ∨
      c.settings.resubscribeOnSessionLoss = true ∧
        0 < (Subscriber.distinct d.compiled).length) :
    ∃ s, LeadsTo (Router.start c d sessionPresent) s ∧ s.Deadlocked := by
  have topics := first_pass unused sessionPresent
  have asks : 0 < (d.connected sessionPresent).1.requests.length := by
    rw [topics]
    obtain many | ⟨_, some⟩ := many
    · exact Nat.lt_of_le_of_lt (Nat.zero_le _) many
    · exact some
  obtain ⟨t, leads, begun, busy⟩ := Idle.beginPass (s := Router.start c d sessionPresent)
    ⟨rfl, rfl, rfl, rfl⟩ rfl rfl asks
  have limits : t.limits = ⟨c.commandCapacity, c.requestCapacity⟩ := begun.limits
  have empty : t.sender.requests = [] := begun.requests
  have registered : Registered t.dispatcher := begun.dispatcher ▸ registered_connected d asks
  have same : t.dispatcher.settings = c.settings := begun.dispatcher ▸ settings
  have further : ∃ u, LeadsTo t u ∧ u.Deadlocked := by
    refine begun.idle.deadlock begun.inLoop (busy ▸ asks) (by simp [empty]) ?_
    rw [limits, empty, busy, same]
    obtain many | ⟨again, _⟩ := many
    · have enough : c.requestCapacity < (d.connected sessionPresent).1.requests.length :=
        topics ▸ many
      exact .inl (Nat.lt_of_lt_of_eq enough (Nat.zero_add _).symm)
    · exact .inr ⟨capacity, begun.commands, registered, again⟩
  obtain ⟨u, leads', deadlocked⟩ := further
  exact ⟨u, leads.trans leads', deadlocked⟩

/-- Without additions a deadlock is in reach exactly if there are more wire topics than the
queue of requests has room for, or any at all and they are asked for again when a session is
lost. With additions there have to be as many by then. A deadlock lasts for ever: nothing is
handled any more, no request leaves, and a shutdown does not come to its end. -/
theorem deadlock_in_reach_iff {c : Config} {declarations : List (Declaration ν)}
    {reception : Reception} {s₀ : Session ν}
    (connected : Router.connect c declarations reception = .ok s₀) :
    ((∃ s, LeadsTo s₀ s ∧ s.Deadlocked) ↔
      c.requestCapacity < (Subscriber.distinct s₀.dispatcher.compiled).length ∨
        c.settings.resubscribeOnSessionLoss = true ∧
          0 < (Subscriber.distinct s₀.dispatcher.compiled).length) ∧
    ∀ s, Reaches s₀ s → s.Deadlocked →
      (c.requestCapacity < (Subscriber.distinct s.dispatcher.compiled).length ∨
        c.settings.resubscribeOnSessionLoss = true ∧
          0 < (Subscriber.distinct s.dispatcher.compiled).length) ∧
      ∀ t, Reaches s t → Locked s t ∧ t.owner ≠ .closed := by
  obtain ⟨d, sessionPresent, built, capacity, rfl⟩ := Router.connect_ok connected
  obtain ⟨_, _, unused, settings, _⟩ := Dispatcher.ofDeclarations_ok built
  refine ⟨⟨?_, deadlock_of_crowded sessionPresent unused settings capacity⟩,
    fun s reached deadlocked => ⟨crowded_of_deadlocked unused settings reached deadlocked, ?_⟩⟩
  · rintro ⟨s, leads, deadlocked⟩
    have same : s.dispatcher.compiled = d.compiled := leads.compiled (by
      intro entry mem
      cases List.mem_singleton.mp mem
      exact ⟨_, rfl⟩)
    have few := crowded_of_deadlocked unused settings leads.reaches deadlocked
    rw [same] at few
    exact few
  · intro t further
    have orderly := (reached.trans further).invariant (P := Orderly)
      (fun _ orderly moved => orderly.move moved) nofun
    have locked := deadlocked.forever further
    exact ⟨locked, locked.deadlocked.not_closed orderly⟩

end

/-- With the usual room, two wire topics can bring a deadlock about if they are asked for again
when a session is lost, and not otherwise. -/
theorem deadlock_of_topics_asked_again :
    let pair : Declaration Unit := ⟨["a", "b"], none, none, none, none, [], .idle, "pair"⟩
    (∃ s₀, Router.connect (.localhost "app") [pair] (.answered .success true) = .ok s₀ ∧
      ¬ ∃ s, LeadsTo s₀ s ∧ s.Deadlocked) ∧
    ∃ s₀, Router.connect
        { connection := .localhost "app", settings := { resubscribeOnSessionLoss := true } }
        [pair] (.answered .success true) = .ok s₀ ∧
      ∃ s, LeadsTo s₀ s ∧ s.Deadlocked := by
  intro pair
  constructor
  · obtain ⟨s₀, connected, topics⟩ : ∃ s₀,
        Router.connect (.localhost "app") [pair] (.answered .success true) = .ok s₀ ∧
        (Subscriber.distinct s₀.dispatcher.compiled).length = 2 := ⟨_, rfl, by cbv⟩
    refine ⟨s₀, connected, fun deadlock => ?_⟩
    obtain many | ⟨again, _⟩ := (deadlock_in_reach_iff connected).1.mp deadlock
    · rw [topics] at many
      exact absurd many (by decide)
    · cases again
  · obtain ⟨s₀, connected, topics⟩ : ∃ s₀, Router.connect
          { connection := .localhost "app", settings := { resubscribeOnSessionLoss := true } }
          [pair] (.answered .success true) = .ok s₀ ∧
        (Subscriber.distinct s₀.dispatcher.compiled).length = 2 := ⟨_, rfl, by cbv⟩
    exact ⟨s₀, connected, (deadlock_in_reach_iff connected).1.mpr (.inr ⟨rfl, by omega⟩)⟩

/-- Two wire topics, and room for one request and one command. -/
theorem deadlock_of_two_topics :
    ∃ s₀ s : Session Unit,
      Router.connect { connection := .localhost "app", requestCapacity := 1, commandCapacity := 1 }
        [⟨["a", "b"], none, none, none, none, [], .idle, "pair"⟩] (.answered .success false) =
          .ok s₀ ∧
      s₀.run? [.takeCommand, .handOver, .arrive (.publish { topic := "a" }), .poll, .passEvent,
        .arrive (.publish { topic := "b" }), .poll] = some s ∧ s.Deadlocked := by
  refine ⟨_, _, rfl, rfl, ⟨_, rfl⟩, rfl, rfl, rfl, ⟨_, rfl⟩, rfl⟩

end MqttRouting.Session
