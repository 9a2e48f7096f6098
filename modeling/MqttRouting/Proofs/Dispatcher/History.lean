import MqttRouting.Proofs.Compiler

/-!
What a dispatcher has come to after a history of commands. Neither connections nor
messages leave more of themselves behind than that the connection has stood; besides
only the declarations count that were taken. Every step keeps the relation between the
history and the compiled subscribers, the registry and the lifecycle.
-/

namespace MqttRouting

variable {ν : Type}

def Command.isConnected : Command ν → Bool
  | .event (.connected _) => true
  | .event (.message _) | .event (.subscribeResult _ _) | .add _ => false

namespace Dispatcher

/-- Whether the connection has stood before. -/
def hasConnected (history : List (Command ν)) : Bool := history.any Command.isConnected

theorem hasConnected_concat (history : List (Command ν)) (command : Command ν) :
    hasConnected (history ++ [command]) = (hasConnected history || command.isConnected) := by
  simp [hasConnected]

variable [Topic.Engine]

/-- The subscribers of the declarations that were taken in a history. -/
def added (settings : Settings) (history : List (Command ν)) : List (Subscriber ν) :=
  history.flatMap fun
    | .add declaration => declaration.accepted settings
    | .event _ => []

/-- The subscribers that messages are routed by after a history. -/
def table (settings : Settings) (initial : List (Subscriber ν)) (history : List (Command ν)) :
    List (Subscriber ν) :=
  if hasConnected history then Subscriber.distinct (initial ++ added settings history) else []

theorem added_event (settings : Settings) (history : List (Command ν)) (e : Event) :
    added settings (history ++ [.event e]) = added settings history := by
  simp [added]

theorem added_add (settings : Settings) (history : List (Command ν))
    (declaration : Declaration ν) :
    added settings (history ++ [.add declaration]) =
      added settings history ++ declaration.accepted settings := by
  simp [added]

/-! What becomes of declarations. -/

/-- All declarations are taken, or the first that does not compile is the answer. -/
theorem compileAll_eq {d : Dispatcher ν} (h : d.compiler.Sound)
    (declarations : List (Declaration ν)) :
    ∃ compiler : Topic.Compiler, compiler.Sound ∧
      d.compileAll declarations =
        (declarations.mapM (Declaration.subscribers d.settings)).map fun lists =>
          { d with compiler, compiled := d.compiled ++ lists.flatten } := by
  induction declarations generalizing d with
  | nil =>
      refine ⟨d.compiler, h, ?_⟩
      rw [compileAll, List.mapM_nil]
      change _ = Except.ok { d with compiled := d.compiled ++ [] }
      rw [List.append_nil]
  | cons declaration rest ih =>
      obtain ⟨compiler, sound, compiled⟩ := compile_eq h declaration
      unfold Declaration.accepted at compiled
      rw [compileAll, compiled, List.mapM_cons]
      cases first : declaration.subscribers d.settings with
      | error e => exact ⟨compiler, sound, rfl⟩
      | ok subscribers =>
          obtain ⟨last, still, others⟩ := ih
            (d := { d with compiler, compiled := d.compiled ++ subscribers }) sound
          refine ⟨last, still, others.trans ?_⟩
          cases rest.mapM (Declaration.subscribers d.settings) with
          | error e => rfl
          | ok more =>
              change Except.ok _ = Except.ok _
              simp

/-- A declaration that does not compile leaves nothing behind. -/
theorem add_refused {d : Dispatcher ν} (h : d.compiler.Sound) {declaration : Declaration ν}
    {e : DeclarationError} (outcome : declaration.subscribers d.settings = .error e) :
    ∃ compiler : Topic.Compiler, compiler.Sound ∧
      d.add declaration = (.error e, { d with compiler }) := by
  obtain ⟨compiler, sound, compiled⟩ := compile_eq h declaration
  refine ⟨compiler, sound, ?_⟩
  rw [add, compiled, Declaration.accepted, outcome, List.append_nil]

/-- Before the connection has stood a declaration is only compiled. -/
theorem add_early {d : Dispatcher ν} (h : d.compiler.Sound) {declaration : Declaration ν}
    {subscribers : List (Subscriber ν)}
    (outcome : declaration.subscribers d.settings = .ok subscribers)
    (early : d.lifecycle = .idle) :
    ∃ compiler : Topic.Compiler, compiler.Sound ∧
      d.add declaration = (.ok {}, { d with compiler, compiled := d.compiled ++ subscribers }) := by
  obtain ⟨compiler, sound, compiled⟩ := compile_eq h declaration
  refine ⟨compiler, sound, ?_⟩
  rw [add, compiled, Declaration.accepted, outcome]
  simp only [early]

/-- Once the connection has stood, what is new of a declaration is registered at once. -/
theorem add_late {d : Dispatcher ν} (h : d.compiler.Sound) {declaration : Declaration ν}
    {subscribers : List (Subscriber ν)}
    (outcome : declaration.subscribers d.settings = .ok subscribers)
    (late : d.lifecycle = .active) :
    ∃ compiler : Topic.Compiler, compiler.Sound ∧
      d.add declaration =
        (.ok ⟨(d.registry.registerAll subscribers).1.length,
            (d.registry.registerAll subscribers).1.map d.requestOf⟩,
          { d with
            compiler
            compiled := d.compiled ++ subscribers
            registry := (d.registry.registerAll subscribers).2 }) := by
  obtain ⟨compiler, sound, compiled⟩ := compile_eq h declaration
  refine ⟨compiler, sound, ?_⟩
  rw [add, compiled, Declaration.accepted, outcome]
  simp only [late]
  rfl

/-! The relation between a history and the dispatcher behind it. -/

/-- A dispatcher that no command has reached yet. -/
structure Unused (d : Dispatcher ν) : Prop where
  sound : d.compiler.Sound
  registry : d.registry = {}
  lifecycle : d.lifecycle = .idle

/-- How a dispatcher stands after a history that began with an unused one. -/
structure Reflects (origin : Dispatcher ν) (history : List (Command ν)) (d : Dispatcher ν) :
    Prop where
  settings : d.settings = origin.settings
  transforms : d.transforms = origin.transforms
  hook : d.hook = origin.hook
  sound : d.compiler.Sound
  compiled : d.compiled = origin.compiled ++ added origin.settings history
  registry : d.registry = if hasConnected history then Registry.ofList d.compiled else {}
  lifecycle : d.lifecycle = if hasConnected history then .active else .idle

theorem Unused.reflects {d : Dispatcher ν} (h : d.Unused) : Reflects d [] d where
  settings := rfl
  transforms := rfl
  hook := rfl
  sound := h.sound
  compiled := by simp [added]
  registry := h.registry
  lifecycle := h.lifecycle

/-- A dispatcher that was built has compiled every declaration, and is still unused. -/
theorem ofDeclarations_ok {settings : Settings} {transforms : Transforms} {hook : Option Hook}
    {declarations : List (Declaration ν)} {d : Dispatcher ν}
    (built : ofDeclarations settings transforms hook declarations = .ok d) :
    ∃ lists, declarations.mapM (Declaration.subscribers settings) = .ok lists ∧
      d.Unused ∧ d.settings = settings ∧ d.transforms = transforms ∧ d.hook = hook ∧
      d.compiled = lists.flatten := by
  obtain ⟨compiler, sound, all⟩ := compileAll_eq
    (d := { settings, transforms, hook }) Topic.Compiler.sound_empty declarations
  rw [ofDeclarations, all] at built
  cases outcome : declarations.mapM (Declaration.subscribers settings) with
  | error e =>
      rw [outcome] at built
      cases built
  | ok lists =>
      rw [outcome] at built
      cases built
      exact ⟨lists, rfl, ⟨sound, rfl, rfl⟩, rfl, rfl, rfl, rfl⟩

namespace Reflects

variable {origin d : Dispatcher ν} {history : List (Command ν)}

theorem entries (h : Reflects origin history d) :
    d.registry.entries = table origin.settings origin.compiled history := by
  rw [h.registry, table, ← h.compiled]
  split
  · exact Registry.ofList_entries d.compiled
  · rfl

/-- A compiled subscriber is one of a declaration that was there or came with a command. -/
theorem mem_compiled {settings : Settings} {transforms : Transforms} {hook : Option Hook}
    {declarations : List (Declaration ν)}
    (built : ofDeclarations settings transforms hook declarations = .ok origin)
    (h : Reflects origin history d) {s : Subscriber ν} (mem : s ∈ d.compiled) :
    ∃ declaration, (declaration ∈ declarations ∨ .add declaration ∈ history) ∧
      ∃ subscribers, declaration.subscribers settings = .ok subscribers ∧ s ∈ subscribers := by
  obtain ⟨lists, compiles, _, rfl, _, _, known⟩ := ofDeclarations_ok built
  rw [h.compiled, known] at mem
  rcases List.mem_append.mp mem with mem | mem
  · obtain ⟨subscribers, present, mem⟩ := List.mem_flatten.mp mem
    obtain ⟨declaration, member, compiled⟩ := mem_of_mapM compiles present
    exact ⟨declaration, .inl member, subscribers, compiled, mem⟩
  · obtain ⟨command, member, mem⟩ := List.mem_flatMap.mp mem
    cases command with
    | event e => cases mem
    | add declaration =>
        dsimp only [Declaration.accepted] at mem
        cases compiled : declaration.subscribers origin.settings with
        | error e =>
            rw [compiled] at mem
            cases mem
        | ok subscribers =>
            rw [compiled] at mem
            exact ⟨declaration, .inr member, subscribers, compiled, mem⟩

theorem compiled_of_registered (h : Reflects origin history d) {s : Subscriber ν}
    (mem : s ∈ d.registry.entries) : s ∈ d.compiled := by
  rw [h.registry] at mem
  split at mem
  · rw [Registry.ofList_entries] at mem
    exact Subscriber.mem_distinct mem
  · cases mem

theorem indexed (h : Reflects origin history d) : d.registry.Indexed := by
  rw [h.registry]
  split
  · exact Registry.ofList_indexed d.compiled
  · exact Registry.indexed_empty

theorem distinct (h : Reflects origin history d) : d.registry.Distinct := by
  rw [h.registry]
  split
  · exact Registry.ofList_distinct d.compiled
  · exact Registry.distinct_empty

theorem connected (h : Reflects origin history d) (sessionPresent : Bool) :
    Reflects origin (history ++ [.event (.connected sessionPresent)])
      (d.connected sessionPresent).2.2 where
  settings := h.settings
  transforms := h.transforms
  hook := h.hook
  sound := h.sound
  compiled := by
    rw [added_event]
    exact h.compiled
  registry := by
    rw [hasConnected_concat, Command.isConnected, Bool.or_true, if_pos rfl]
    change (d.registry.registerAll d.compiled).2 = Registry.ofList d.compiled
    rw [h.registry]
    split
    · rw [Registry.ofList_again]
    · rfl
  lifecycle := by
    rw [hasConnected_concat, Command.isConnected, Bool.or_true]
    rfl

theorem add (h : Reflects origin history d) (declaration : Declaration ν) :
    Reflects origin (history ++ [.add declaration]) (d.add declaration).2 := by
  have still : hasConnected (history ++ [.add declaration]) = hasConnected history := by
    rw [hasConnected_concat, Command.isConnected, Bool.or_false]
  have more : added origin.settings (history ++ [.add declaration]) =
      added origin.settings history ++ declaration.accepted d.settings := by
    rw [added_add, h.settings]
  unfold Declaration.accepted at more
  have before := h.registry
  have stage := h.lifecycle
  rw [← still] at before stage
  cases outcome : declaration.subscribers d.settings with
  | error e =>
      obtain ⟨compiler, sound, refused⟩ := add_refused h.sound outcome
      rw [outcome, List.append_nil] at more
      rw [refused]
      exact ⟨h.settings, h.transforms, h.hook, sound, more ▸ h.compiled, before, stage⟩
  | ok subscribers =>
      have compiled : d.compiled ++ subscribers = origin.compiled ++
          added origin.settings (history ++ [.add declaration]) := by
        rw [more, outcome, h.compiled, List.append_assoc]
      cases connected : hasConnected (history ++ [.add declaration]) with
      | false =>
          rw [connected] at before stage
          obtain ⟨compiler, sound, taken⟩ := add_early h.sound outcome stage
          rw [taken]
          exact ⟨h.settings, h.transforms, h.hook, sound, compiled, connected ▸ before,
            connected ▸ stage⟩
      | true =>
          rw [connected] at before stage
          obtain ⟨compiler, sound, taken⟩ := add_late h.sound outcome stage
          rw [taken]
          refine ⟨h.settings, h.transforms, h.hook, sound, compiled, ?_, connected ▸ stage⟩
          rw [connected, if_pos rfl, before, if_pos rfl]
          exact Registry.ofList_more d.compiled subscribers

/-- Every step keeps the relation. -/
theorem step (h : Reflects origin history d) (command : Command ν) :
    Reflects origin (history ++ [command]) (d.step command).2.2 := by
  have quiet (e : Event) (idle : Command.isConnected (.event e : Command ν) = false) :
      Reflects origin (history ++ [.event e]) d := by
    have still : hasConnected (history ++ [.event e]) = hasConnected history := by
      rw [hasConnected_concat, idle, Bool.or_false]
    have same := added_event origin.settings history e
    exact ⟨h.settings, h.transforms, h.hook, h.sound, same ▸ h.compiled, still ▸ h.registry,
      still ▸ h.lifecycle⟩
  cases command with
  | add declaration =>
      have after := h.add declaration
      rw [Dispatcher.step]
      generalize d.add declaration = outcome at after ⊢
      obtain ⟨e | pass, next⟩ := outcome
      · exact after
      · exact after
  | event e =>
      cases e with
      | connected sessionPresent => exact h.connected sessionPresent
      | message m =>
          rw [Dispatcher.step]
          split <;> exact quiet (.message m) rfl
      | subscribeResult wireTopic success => exact quiet (.subscribeResult wireTopic success) rfl

theorem run (h : Reflects origin history d) (commands : List (Command ν)) :
    Reflects origin (history ++ commands) (d.run commands).2 := by
  induction commands generalizing history d with
  | nil =>
      rw [List.append_nil]
      exact h
  | cons command rest ih =>
      rw [List.append_cons]
      exact ih (h.step command)

end Reflects

/-! Running. -/

theorem run_append (d : Dispatcher ν) (front back : List (Command ν)) :
    d.run (front ++ back) =
      ((d.run front).1 ++ ((d.run front).2.run back).1, ((d.run front).2.run back).2) := by
  induction front generalizing d with
  | nil => rfl
  | cons command rest ih => simp [run, ih]

theorem run_length (d : Dispatcher ν) (commands : List (Command ν)) :
    (d.run commands).1.length = commands.length := by
  induction commands generalizing d with
  | nil => rfl
  | cons command rest ih => simp [run, ih]

/-- The effect of a command within a run is the one of a step from where the run has come. -/
theorem run_effect (d : Dispatcher ν) (before : List (Command ν)) (command : Command ν)
    (after : List (Command ν)) :
    (d.run (before ++ command :: after)).1[before.length]? =
      some ((d.run before).2.step command).1 := by
  have place := run_length d before
  rw [run_append]
  simp [place, run]

end Dispatcher
end MqttRouting
