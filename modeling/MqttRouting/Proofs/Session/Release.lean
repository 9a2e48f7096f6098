import MqttRouting.Proofs.Session.Deadlock
import MqttRouting.Topic.Engine.Sized

/-!
Letting go of the tasks. To the worker that is no different from being told to stop.
-/

namespace MqttRouting.Session

variable {ν : Type} {s t u : Session ν}

/-! Runs behind a release. -/

theorem leaves_iff (m : Move ν) : m.leaves = true ↔ m = .stop ∨ m = .closeCommands := by
  cases m <;> simp [Move.leaves]

section

variable [Topic.Engine]

theorem run_inLoop {moves : List (Move ν)} (run : s.run? moves = some t) :
    t.InLoop ↔ s.InLoop ∧ ∀ m ∈ moves, m.leaves = false := by
  induction moves generalizing s with
  | nil =>
      cases run
      simp
  | cons m rest ih =>
      obtain ⟨next, moved, run⟩ := Option.bind_eq_some_iff.mp run
      rw [ih run, move_inLoop moved, List.forall_mem_cons, and_assoc]

theorem Reaches.handles_le (h : Reaches s t) : t.handles ≤ s.handles :=
  h.invariant (P := fun u => u.handles ≤ s.handles)
    (fun _ fewer moved => Nat.le_trans (move_handles moved) fewer) (Nat.le_refl _)

/-- The queue of commands is only found closed where all handles are gone. -/
theorem run_closeCommands {moves : List (Move ν)} (run : s.run? moves = some t)
    (closes : Move.closeCommands ∈ moves) : t.handles = 0 := by
  induction moves generalizing s with
  | nil => cases closes
  | cons m rest ih =>
      obtain ⟨next, moved, run⟩ := Option.bind_eq_some_iff.mp run
      rcases List.mem_cons.mp closes with rfl | closes
      · obtain ⟨_, _, gone, _⟩ := closeCommands_inv moved
        have fewer := (Reaches.of_run? run).handles_le
        have fewer' := move_handles moved
        omega
      · exact ih run closes

theorem run_inLoop_of_handles {moves : List (Move ν)} (run : s.run? moves = some t)
    (alive : t.handles ≠ 0) : t.InLoop ↔ s.InLoop ∧ .stop ∉ moves := by
  rw [run_inLoop run]
  refine and_congr_right fun _ => ⟨fun stays stops => ?_, fun goesOn m mem => ?_⟩
  · cases stays _ stops
  · cases leaves : m.leaves with
    | false => rfl
    | true =>
        obtain rfl | rfl := (leaves_iff m).mp leaves
        · exact absurd mem goesOn
        · exact absurd (run_closeCommands run mem) alive

/-- Nobody takes up again what the owner has let go. -/
theorem Reaches.released (h : Reaches s t) (released : s.owner = .released)
    (dropped : s.signal = .dropped) : t.owner = .released ∧ t.signal = .dropped := by
  refine h.invariant (P := fun u => u.owner = .released ∧ u.signal = .dropped) ?_
    ⟨released, dropped⟩
  intro u v m ⟨released, dropped⟩ moved
  cases own : m.actor with
  | worker =>
      have stands := (worker_move_stands moved own).2
      exact ⟨stands.owner.trans released, stands.signal.trans dropped⟩
  | eventLoop =>
      have stands := (loop_move_stands moved own).2
      exact ⟨stands.owner.trans released, stands.signal.trans dropped⟩
  | outside =>
      obtain ⟨_, _, _, stands⟩ := outside_move_stands moved own
      exact ⟨(stands released).1, (stands released).2.trans dropped⟩

end

/-! The worker behind a release. -/

theorem stop?_of_dropped (ready : s.stage = .ready) (dropped : s.signal = .dropped) :
    s.stop? = some (s.leave .stopSignal) := by
  simp [stop?, isReady_iff.mpr ready, dropped]

theorem passEvent?_of_ended (ended : s.stage = .ended) {e : Event} (held : s.loop.held = some e) :
    ∃ t, s.passEvent? = some t ∧ t.loop.ended = true := by
  simp only [passEvent?, held, workerEnded_iff.mpr ended]
  exact ⟨_, rfl, rfl⟩

theorem add?_of_ended (ended : s.stage = .ended) (alive : s.handles ≠ 0) (caller : Nat)
    (declaration : Declaration ν) :
    s.add? caller declaration = some (s.reply (some caller) (.lost .channelClosed)) := by
  simp [add?, alive, workerEnded_iff.mpr ended]

section

variable [Topic.Engine]

/-- A worker that has been let go comes to rest at its end only, or in a deadlock. -/
theorem rest_of_dropped (linked : s.Linked) (room : 0 < s.limits.requests)
    (dropped : s.signal = .dropped) (rest : ∀ m ∈ ownMoves, s.move? m = none) :
    s.stage = .ended ∨ s.Deadlocked := by
  cases stage : s.stage with
  | ready =>
      have stays : s.stop? = none := rest .stop (by simp [ownMoves])
      cases stays.symm.trans (stop?_of_dropped stage dropped)
  | ended => exact .inl rfl
  | draining =>
      have drains := isDraining_iff.mpr stage
      by_cases finished : s.running = 0
      · have busy : s.drained? = none := rest .drained (by simp [ownMoves])
        simp [drained?, drains, finished] at busy
      · have waits : s.giveUp? = none := rest .giveUp (by simp [ownMoves])
        simp [giveUp?, drains, finished] at waits
  | requesting pass =>
      have waits : s.handOver? = none := rest .handOver (by simp [ownMoves])
      have unsent : s.sendRequest? = none := rest .sendRequest (by simp [ownMoves])
      have unpassed : s.passEvent? = none := rest .passEvent (by simp [ownMoves])
      obtain ⟨attached, full⟩ := (handOver?_none stage).mp waits
      have runs : s.loop.ended = false := by simpa [Linked, attached] using linked
      obtain ⟨e, held⟩ := (sendRequest?_none runs (requests_ne_nil room full)).mp unsent
      exact .inr ⟨⟨pass, stage⟩, attached, full, runs, ⟨e, held⟩,
        (passEvent?_none held (by simp [stage])).mp unpassed⟩

theorem connect_linked {c : Config} {declarations : List (Declaration ν)}
    {reception : Reception} (connected : Router.connect c declarations reception = .ok s) :
    s.Linked ∧ s.limits = ⟨c.commandCapacity, c.requestCapacity⟩ := by
  obtain ⟨d, sessionPresent, _, _, rfl⟩ := Router.connect_ok connected
  exact ⟨rfl, rfl⟩

/-- Behind a release, as long as there is a handle, the worker keeps its loop in exactly those
runs in which it does not stop: there it still gets every event. But it may stop whenever it
is at rest, and if nothing else happens it has to, short of a deadlock. Then it handles nothing
any more, whoever adds a declaration is turned away, and the next event ends the event loop. -/
theorem release_keeps_loop_iff {c : Config} {declarations : List (Declaration ν)}
    {reception : Reception} {s₀ s t u : Session ν} {moves : List (Move ν)}
    (connected : Router.connect c declarations reception = .ok s₀) (reached : Reaches s₀ s)
    (released : s.release? = some t) (run : t.run? moves = some u) (alive : u.handles ≠ 0) :
    (u.InLoop ↔ s.InLoop ∧ .stop ∉ moves) ∧
    (u.InLoop → ∀ e v, u.loop.held = some e → u.passEvent? = some v →
      v.loop.ended = u.loop.ended ∧ v.commands = u.commands ++ [⟨.event e, none⟩]) ∧
    (u.stage = .ready → ∃ v, u.stop? = some v ∧ ¬ v.InLoop) ∧
    (0 < c.requestCapacity → (∀ m ∈ ownMoves, u.move? m = none) →
      u.stage = .ended ∨ u.Deadlocked) ∧
    (¬ u.InLoop → ∀ v, Reaches u v → ¬ v.InLoop ∧ v.dispatcher = u.dispatcher) ∧
    (u.stage = .ended →
      (∀ caller declaration,
        u.add? caller declaration = some (u.reply (some caller) (.lost .channelClosed))) ∧
      ∀ e, u.loop.held = some e → ∃ v, u.passEvent? = some v ∧ v.loop.ended = true) := by
  obtain ⟨_, activity, rfl⟩ := release_inv released
  have behind := Reaches.of_run? run
  have whole : Reaches s₀ u := (reached.step .release released).trans behind
  obtain ⟨_, dropped⟩ := behind.released rfl rfl
  obtain ⟨first, capacities⟩ := connect_linked connected
  have linked : u.Linked := whole.invariant (fun _ linked moved => linked.move moved) first
  have limits : u.limits = s₀.limits := whole.invariant (P := fun v => v.limits = s₀.limits)
    (fun _ same moved => (move_limits moved).trans same) rfl
  have loop := run_inLoop_of_handles run alive
  refine ⟨loop, ?_, ?_, ?_, ?_, ?_⟩
  · intro inside e v held passed
    obtain ⟨e', held', ⟨finished, _⟩ | ⟨_, _, rfl⟩⟩ := passEvent_inv passed
    · simp [InLoop, finished] at inside
    · cases held.symm.trans held'
      exact ⟨rfl, rfl⟩
  · intro ready
    exact ⟨_, stop?_of_dropped ready dropped, not_inLoop_leave u _⟩
  · intro room rest
    rw [← limits] at capacities
    exact rest_of_dropped linked (by rwa [capacities]) dropped rest
  · intro out v further
    exact further.out_of_loop out
  · intro finished
    exact ⟨add?_of_ended finished alive, fun e held => passEvent?_of_ended finished held⟩

end

/-- A router without declarations is let go of before it has been told about its connection:
the worker may stop at once, and then a declaration comes too late. -/
theorem release_before_the_first_command :
    let s₀ : Session Unit := Router.start (.localhost "app") { settings := {} } false
    Router.connect (.localhost "app") [] (.answered .success false) = .ok s₀ ∧
      ∃ t u, s₀.release? = some t ∧ t.run? [.stop] = some u ∧ u.handles ≠ 0 ∧ ¬ u.InLoop ∧
        ∀ caller declaration,
          u.add? caller declaration = some (u.reply (some caller) (.lost .channelClosed)) := by
  intro s₀
  have connected : Router.connect (.localhost "app") [] (.answered .success false) = .ok s₀ := rfl
  refine ⟨connected, _, _, rfl, rfl, Nat.one_ne_zero, ?_⟩
  obtain ⟨stays, _, _, _, _, finished⟩ := release_keeps_loop_iff connected (.refl s₀) rfl
    (show run? _ [.stop] = some _ from rfl) Nat.one_ne_zero
  refine ⟨fun inside => ?_, (finished rfl).1⟩
  exact (stays.mp inside).2 (List.mem_singleton.mpr rfl)

/-- The router has been let go of while its worker waits for commands, and there is a handle
left. A message ends the event loop, because the worker has stopped. -/
theorem released_worker_ends_the_loop :
    ∃ s₀ s t u : Session Unit,
      Router.connect (.localhost "app") [] (.answered .success false) = .ok s₀ ∧
      s₀.run? [.takeCommand] = some s ∧ s.InLoop ∧ s.release? = some t ∧
      t.run? [.stop, .arrive (.publish { topic := "a" }), .poll, .passEvent] = some u ∧
      u.handles = 1 ∧ u.loop.ended = true ∧ ¬ u.InLoop := by
  refine ⟨_, _, _, _, rfl, rfl, .inl rfl, rfl, rfl, rfl, rfl, ?_⟩
  rintro (ready | ⟨_, requesting⟩)
  · cases ready
  · cases requesting

end MqttRouting.Session
