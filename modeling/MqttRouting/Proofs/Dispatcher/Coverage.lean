import MqttRouting.Proofs.Dispatcher.History
import MqttRouting.Proofs.Topic.Delivery
import MqttRouting.Topic.Engine.Sized

/-!
What becomes of a subscriber whose wire topic is taken. Who holds the wire topic gets the
same messages, unless the routes of the two only look alike on the wire.
-/

namespace MqttRouting

variable {ν : Type}

namespace Subscriber

variable [Topic.Engine]

def delivery (settings : Settings) (s : Subscriber ν) : Topic.Delivery :=
  (s.declaration.policy settings.policy).delivery

/-- A subscriber whose matcher and wire topic are made from its route. -/
structure Delivered (settings : Settings) (s : Subscriber ν) : Prop where
  matcher : Topic.Matcher.compile s.route = .ok s.topic.matcher
  wireTopic : s.wireTopic = (s.delivery settings).mark ++ s.route

/-- Two subscribers of which one has in its route what marks the other. -/
def Confused (settings : Settings) (s s' : Subscriber ν) : Prop :=
  Topic.Lookalike s.route s'.route (s.delivery settings) (s'.delivery settings) ∨
    Topic.Lookalike s'.route s.route (s'.delivery settings) (s.delivery settings)

namespace Delivered

variable {settings : Settings} {s s' : Subscriber ν}

theorem of_subscribers {declaration : Declaration ν} {subscribers : List (Subscriber ν)}
    (compiled : declaration.subscribers settings = .ok subscribers) (mem : s ∈ subscribers) :
    s.Delivered settings := by
  obtain ⟨rfl, template, _, made⟩ := Declaration.mem_subscribers compiled mem
  obtain ⟨matcher, built, topic⟩ := Topic.Compiled.compile_ok made
  have own : s.topic.matcher = matcher := by rw [topic]; rfl
  have route : s.route = matcher.route := by
    rw [Subscriber.route, topic]
    rfl
  constructor
  · rw [route, own, Topic.Matcher.compile_route built]
    exact built
  · rw [route, delivery, ← Topic.Policy.wireTopic_eq, Subscriber.wireTopic, topic]
    rfl

/-- Under one wire topic the routes are the same, unless the two are confused. -/
theorem route_eq_iff (h : s.Delivered settings) (h' : s'.Delivered settings)
    (same : s.wireTopic = s'.wireTopic) : s.route = s'.route ↔ ¬ Confused settings s s' := by
  constructor
  · intro route confused
    rcases confused with alike | alike
    · exact alike.route_ne route
    · exact alike.route_ne route.symm
  · intro clear
    rw [h.wireTopic, h'.wireTopic, Topic.Delivery.mark_append_eq_iff] at same
    rcases same with ⟨_, route⟩ | confused
    · exact route
    · exact absurd confused clear

theorem isMatch_eq (h : s.Delivered settings) (h' : s'.Delivered settings)
    (same : s.route = s'.route) (topic : String) : s.isMatch topic = s'.isMatch topic := by
  have matchers : s.topic.matcher = s'.topic.matcher := by
    have built := h.matcher
    rw [same, h'.matcher] at built
    exact (Except.ok.inj built).symm
  rw [isMatch, isMatch, Topic.Compiled.isMatch, Topic.Compiled.isMatch, matchers]

end Delivered
end Subscriber

namespace Dispatcher

/-- Once the connection has stood, every compiled subscriber has a holder of its wire topic,
who takes the same messages unless the two are confused; and where routes and groups are
unmistakable, whatever some compiled subscriber takes is taken by a registered one. -/
theorem connected_covers [Topic.Engine] {settings : Settings} {transforms : Transforms}
    {hook : Option Hook} {declarations : List (Declaration ν)} {d : Dispatcher ν}
    (built : ofDeclarations settings transforms hook declarations = .ok d)
    {history : List (Command ν)} (stood : hasConnected history = true) :
    let now := (d.run history).2
    (∀ s ∈ now.compiled, ∃ holder ∈ now.registry.entries, holder.wireTopic = s.wireTopic ∧
      (holder.route = s.route ↔ ¬ Subscriber.Confused settings holder s) ∧
      (¬ Subscriber.Confused settings holder s →
        ∀ topic, holder.isMatch topic = s.isMatch topic)) ∧
    ((∀ s ∈ now.compiled, (s.delivery settings).Unmistakable s.route) →
      ∀ topic, (∃ s ∈ now.compiled, s.isMatch topic = true) →
        ∃ holder ∈ now.registry.entries, holder.isMatch topic = true) := by
  obtain ⟨_, _, unused, _⟩ := ofDeclarations_ok built
  intro now
  have reflects : Reflects d history now := unused.reflects.run history
  have delivered (s : Subscriber ν) (mem : s ∈ now.compiled) : s.Delivered settings := by
    obtain ⟨_, _, _, compiled, mem⟩ := reflects.mem_compiled built mem
    exact .of_subscribers compiled mem
  have registered : now.registry = Registry.ofList now.compiled := by
    rw [reflects.registry, if_pos stood]
  have held (s : Subscriber ν) (mem : s ∈ now.compiled) :
      ∃ holder ∈ now.registry.entries, holder ∈ now.compiled ∧ holder.wireTopic = s.wireTopic := by
    have known := (Registry.mem_wireTopics_ofList now.compiled s.wireTopic).mpr ⟨s, mem, rfl⟩
    rw [← registered] at known
    obtain ⟨holder, entered, same⟩ := List.mem_map.mp known
    exact ⟨holder, entered, reflects.compiled_of_registered entered, same⟩
  constructor
  · intro s mem
    obtain ⟨holder, entered, compiled, same⟩ := held s mem
    have route := (delivered holder compiled).route_eq_iff (delivered s mem) same
    refine ⟨holder, entered, same, route, ?_⟩
    intro clear
    exact (delivered holder compiled).isMatch_eq (delivered s mem) (route.mpr clear)
  · intro unmistakable topic ⟨s, mem, matched⟩
    obtain ⟨holder, entered, compiled, same⟩ := held s mem
    have clear : ¬ Subscriber.Confused settings holder s := by
      rintro (alike | alike)
      · exact (unmistakable holder compiled).not_lookalike (unmistakable s mem) alike
      · exact (unmistakable s mem).not_lookalike (unmistakable holder compiled) alike
    have route := ((delivered holder compiled).route_eq_iff (delivered s mem) same).mpr clear
    refine ⟨holder, entered, ?_⟩
    rw [(delivered holder compiled).isMatch_eq (delivered s mem) route, matched]

/-- The second declaration finds the wire topic of its rooms taken by the first, who gets their
messages for it. -/
theorem shared_rooms_are_covered :
    ∃ d : Dispatcher Unit,
      ofDeclarations { share := some "crew" } {} none
        [{ topics := ["$queue/hq/+"], handler := .idle, owner := "rooms" },
          { topics := ["$share/old/hq/+", "door"], handler := .idle, owner := "halls" }] = .ok d ∧
      hasConnected ([.event (.connected false)] : List (Command Unit)) = true ∧
      (d.run [.event (.connected false)]).2.compiled.map Subscriber.wireTopic =
        ["$share/crew/hq/+", "$share/crew/hq/+", "$share/crew/door"] ∧
      (d.run [.event (.connected false)]).2.registry.wireTopics =
        ["$share/crew/hq/+", "$share/crew/door"] ∧
      ∀ topic, (∃ s ∈ (d.run [.event (.connected false)]).2.compiled, s.isMatch topic = true) →
        ∃ holder ∈ (d.run [.event (.connected false)]).2.registry.entries,
          holder.isMatch topic = true := by
  obtain ⟨d, built⟩ : ∃ d : Dispatcher Unit,
      ofDeclarations { share := some "crew" } {} none
        [{ topics := ["$queue/hq/+"], handler := .idle, owner := "rooms" },
          { topics := ["$share/old/hq/+", "door"], handler := .idle, owner := "halls" }] = .ok d :=
    ⟨_, rfl⟩
  have stood : hasConnected ([.event (.connected false)] : List (Command Unit)) = true := rfl
  have covers := (connected_covers built stood).2
  cases built
  exact ⟨_, rfl, stood, rfl, rfl, covers (by decide)⟩

/-- Groups with a hyphen are left in a route, so the first route begins with the mark of the
second subscriber. Its wire topic is taken then, and nobody gets the messages of the door. -/
theorem door_is_lost_to_a_lookalike :
    ∃ d : Dispatcher Unit,
      ofDeclarations {} {} none
        [{ topics := ["$share/night-crew/door"], handler := .idle, owner := "rooms" },
          { topics := ["door"], share := some "night-crew", handler := .idle, owner := "crew" }] =
        .ok d ∧
      (∃ s ∈ (d.run [.event (.connected false)]).2.compiled, s.isMatch "door" = true) ∧
      ¬ ∃ holder ∈ (d.run [.event (.connected false)]).2.registry.entries,
        holder.isMatch "door" = true := by
  refine ⟨_, rfl, ⟨_, .tail _ (.head _), rfl⟩, ?_⟩
  decide

end Dispatcher
end MqttRouting
