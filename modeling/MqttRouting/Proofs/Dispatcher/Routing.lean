import MqttRouting.Proofs.Dispatcher.History
import MqttRouting.Topic.Engine.Sized

/-!
Routing over whole runs. Where a message goes is told by a table that depends only on the
settings, the declarations, and whether the connection has stood; what else happened does
not matter.
-/

namespace MqttRouting.Dispatcher

variable {ν : Type}

/-- The hook lets a message pass, and every payload that the subscriber wants of it can be
decoded. -/
def Admits (transforms : Transforms) (hook : Option Hook) (s : Subscriber ν) (m : Message) :
    Prop :=
  (∀ check, hook = some check → check m = .ok ()) ∧
    ∀ p ∈ s.declaration.parameters, p.kind = .payload →
      ∃ value, transforms.decode (s.declaration.payloadTransform p) m.payload = .ok value

theorem argument_ok_iff (d : Dispatcher ν) (s : Subscriber ν) (m : Message) (p : Parameter) :
    (∃ arg, d.argument s m p = .ok arg) ↔
      (p.kind = .payload →
        ∃ value, d.transforms.decode (s.declaration.payloadTransform p) m.payload = .ok value) := by
  unfold argument
  cases p.kind with
  | payload =>
      cases d.transforms.decode (s.declaration.payloadTransform p) m.payload with
      | ok value => simp
      | error e => simp
  | topic => simp
  | packet => simp
  | params => simp

theorem fillSlots_ok_iff (d : Dispatcher ν) (s : Subscriber ν) (m : Message)
    (parameters : List Parameter) (slots : List (Option Arg)) :
    (∃ filled, d.fillSlots s m parameters slots = .ok filled) ↔
      ∀ p ∈ parameters, ∃ arg, d.argument s m p = .ok arg := by
  induction parameters generalizing slots with
  | nil => simp [fillSlots]
  | cons p rest ih =>
      rw [List.forall_mem_cons, fillSlots]
      cases d.argument s m p with
      | error e => simp
      | ok arg => simpa using ih (slots.set p.position (some arg))

theorem checkHook_ok_iff (d : Dispatcher ν) (m : Message) :
    d.checkHook m = .ok () ↔ ∀ check, d.hook = some check → check m = .ok () := by
  unfold checkHook
  cases d.hook with
  | none => simp
  | some check =>
      change (check m).mapError (DispatchError.beforeHandle m.topic) = .ok () ↔ _
      constructor
      · intro passed other same
        cases same
        cases verdict : check m with
        | error e =>
            rw [verdict] at passed
            cases passed
        | ok u => rfl
      · intro passes
        rw [passes check rfl]
        rfl

/-- A matched message leads to a call exactly if the subscriber admits it. -/
theorem prepare_matched {d : Dispatcher ν} {m : Message} {s : Subscriber ν}
    (found : d.registry.findMatch? m.topic = some s) :
    (∃ args, d.prepare m = .ok (some ⟨s, args⟩)) ↔ Admits d.transforms d.hook s m := by
  have fills := fillSlots_ok_iff d s m s.declaration.parameters
    (List.replicate s.declaration.arity none)
  simp only [argument_ok_iff] at fills
  rw [Admits, ← checkHook_ok_iff, ← fills]
  simp only [prepare, found]
  cases d.checkHook m with
  | error e => simp
  | ok u =>
      cases d.fillSlots s m s.declaration.parameters
          (List.replicate s.declaration.arity none) with
      | error e => simp
      | ok slots => simp

/-- A call is only ever made for the earliest subscriber that matches. -/
theorem prepare_subscriber {d : Dispatcher ν} {m : Message} {c : Call ν}
    (h : d.prepare m = .ok (some c)) : d.registry.findMatch? m.topic = some c.subscriber := by
  unfold prepare at h
  split at h
  · cases h
  · split at h
    · cases h
    · split at h
      · cases h
      · cases h
        assumption

/-- A call is made for the earliest subscriber that a message matches, if that one admits
it, and for no other. -/
theorem prepare_call_iff (d : Dispatcher ν) (m : Message) (s : Subscriber ν) :
    (∃ args, d.prepare m = .ok (some ⟨s, args⟩)) ↔
      d.registry.entries.find? (·.isMatch m.topic) = some s ∧
        Admits d.transforms d.hook s m := by
  constructor
  · rintro ⟨args, h⟩
    have found := prepare_subscriber h
    exact ⟨found, (prepare_matched found).mp ⟨args, h⟩⟩
  · rintro ⟨found, admits⟩
    exact (prepare_matched found).mpr admits

theorem step_message [Topic.Engine] (d : Dispatcher ν) (m : Message) (c : Call ν) :
    (d.step (.event (.message m))).1 = .call c ↔ d.prepare m = .ok (some c) := by
  simp only [step, receive]
  cases d.prepare m with
  | error e => simp
  | ok call =>
      cases call with
      | none => simp
      | some other => simp

/-- A declaration is refused exactly if it does not compile by itself. -/
theorem step_refused [Topic.Engine] {d : Dispatcher ν} (h : d.compiler.Sound)
    (declaration : Declaration ν) (e : DeclarationError) :
    (d.step (.add declaration)).1 = .refused e ↔
      declaration.subscribers d.settings = .error e := by
  cases outcome : declaration.subscribers d.settings with
  | error cause =>
      obtain ⟨compiler, _, refused⟩ := add_refused h outcome
      simp [step, refused]
  | ok subscribers =>
      cases stage : d.lifecycle with
      | idle =>
          obtain ⟨compiler, _, taken⟩ := add_early h outcome stage
          simp [step, taken]
      | active =>
          obtain ⟨compiler, _, taken⟩ := add_late h outcome stage
          simp [step, taken]

/-- After any history the registry is the table of that history, and every message is
routed by the table: to the first of its subscribers that the message matches, if that one
admits it, and to no other. The table counts the declarations that are not refused. -/
theorem run_routes_by_table [Topic.Engine] {settings : Settings} {transforms : Transforms}
    {hook : Option Hook} {declarations : List (Declaration ν)} {d : Dispatcher ν}
    (built : ofDeclarations settings transforms hook declarations = .ok d) :
    ∃ initial, declarations.mapM (Declaration.subscribers settings) = .ok initial ∧
      ∀ history : List (Command ν),
        (d.run history).2.registry.entries = table settings initial.flatten history ∧
        (∀ (m : Message) (later : List (Command ν)) (s : Subscriber ν),
          (∃ args, (d.run (history ++ .event (.message m) :: later)).1[history.length]? =
              some (.call ⟨s, args⟩)) ↔
            (table settings initial.flatten history).find? (·.isMatch m.topic) = some s ∧
              Admits transforms hook s m) ∧
        ∀ (declaration : Declaration ν) (later : List (Command ν)) (e : DeclarationError),
          (d.run (history ++ .add declaration :: later)).1[history.length]? = some (.refused e) ↔
            declaration.subscribers settings = .error e := by
  obtain ⟨initial, compiles, unused, rfl, rfl, rfl, known⟩ := ofDeclarations_ok built
  refine ⟨initial, compiles, fun history => ?_⟩
  have now := unused.reflects.run history
  rw [List.nil_append] at now
  rw [← known]
  refine ⟨now.entries, ?_, ?_⟩
  · intro m later s
    rw [← now.entries, ← now.transforms, ← now.hook, ← prepare_call_iff]
    simp only [run_effect, Option.some.injEq, step_message]
  · intro declaration later e
    rw [run_effect, Option.some.injEq, step_refused now.sound, now.settings]

/-- Two declarations share a wire topic, and the earlier one gets the messages. -/
theorem earlier_declaration_is_routed_to :
    ∃ d : Dispatcher Unit,
      ofDeclarations { share := some "crew" } {} none
        [{ topics := ["hq/+", "$queue/hq/#"], handler := .idle, owner := "rooms" },
          { topics := ["hq/+", "door"], handler := .idle, owner := "halls" }] = .ok d ∧
      (d.run []).2.registry.wireTopics = [] ∧
      (d.run [.event (.connected false)]).2.registry.wireTopics =
        ["$share/crew/hq/+", "$share/crew/hq/#", "$share/crew/door"] ∧
      ∃ s args, s.declaration.owner = "rooms" ∧
        (d.run [.event (.connected false), .event (.message (.plain "hq/7" []))]).1[1]? =
          some (.call ⟨s, args⟩) := by
  obtain ⟨d, built⟩ : ∃ d : Dispatcher Unit,
      ofDeclarations { share := some "crew" } {} none
        [{ topics := ["hq/+", "$queue/hq/#"], handler := .idle, owner := "rooms" },
          { topics := ["hq/+", "door"], handler := .idle, owner := "halls" }] = .ok d := ⟨_, rfl⟩
  obtain ⟨initial, compiles, follows⟩ := run_routes_by_table built
  cases compiles
  refine ⟨d, built, ?_, ?_, ?_⟩
  · rw [Registry.wireTopics, (follows []).1]
    rfl
  · rw [Registry.wireTopics, (follows [.event (.connected false)]).1]
    rfl
  · obtain ⟨args, called⟩ := ((follows [.event (.connected false)]).2.1
      (.plain "hq/7" []) [] _).mpr ⟨rfl, by simp, by simp⟩
    exact ⟨_, args, rfl, called⟩

end MqttRouting.Dispatcher
