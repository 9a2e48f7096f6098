import MqttRouting.Proofs.Dispatcher.Subscribing
import MqttRouting.Proofs.Except
import MqttRouting.Topic.Engine.Sized

/-!
Declarations that are not taken. All that a refusal leaves behind is what the compiler has
learned on the way, and a compiler answers the same whatever it remembers. So nobody can tell
from a host that something was refused: what comes later goes on as if it had never been asked.
-/

namespace MqttRouting

variable {σ ν : Type}

namespace Declaration

theorem subscriber_ok_iff [Topic.Engine] {settings : Settings} {declaration : Declaration ν}
    {template : String} :
    (∃ s, declaration.subscriber settings template = .ok s) ↔
      ∃ topic, Topic.Compiled.compile (Topic.substitute template settings.bindings)
        (declaration.policy settings.policy) = .ok topic := by
  unfold subscriber
  cases compiled : Topic.Compiled.compile (Topic.substitute template settings.bindings)
      (declaration.policy settings.policy) with
  | error cause => simp [compiled]
  | ok topic => simp [compiled]

theorem subscriber_error_iff [Topic.Engine] {settings : Settings} {declaration : Declaration ν}
    {template : String} {e : DeclarationError} :
    declaration.subscriber settings template = .error e ↔
      ∃ cause, Topic.Compiled.compile (Topic.substitute template settings.bindings)
          (declaration.policy settings.policy) = .error cause ∧
        e = .pattern declaration.owner (Topic.substitute template settings.bindings) cause := by
  unfold subscriber
  cases compiled : Topic.Compiled.compile (Topic.substitute template settings.bindings)
      (declaration.policy settings.policy) with
  | error cause => simp [compiled, eq_comm]
  | ok topic => simp [compiled]

end Declaration

namespace Dispatcher

/-- A dispatcher as it can be seen from outside, without what its compiler remembers. -/
def forget (d : Dispatcher ν) : Dispatcher ν := { d with compiler := {} }

theorem fillSlots_forget (d : Dispatcher ν) (s : Subscriber ν) (m : Message)
    (parameters : List Parameter) (slots : List (Option Arg)) :
    d.forget.fillSlots s m parameters slots = d.fillSlots s m parameters slots := by
  induction parameters generalizing slots with
  | nil => rfl
  | cons p rest ih =>
      rw [fillSlots, fillSlots, show d.forget.argument s m p = d.argument s m p from rfl]
      cases d.argument s m p with
      | error e => rfl
      | ok arg => exact ih _

theorem prepare_forget (d : Dispatcher ν) (m : Message) : d.forget.prepare m = d.prepare m := by
  unfold prepare
  simp only [fillSlots_forget]
  rfl

theorem receive_forget (d : Dispatcher ν) (m : Message) : d.forget.receive m = d.receive m := by
  unfold receive
  rw [prepare_forget]
  rfl

variable [Topic.Engine] {d : Dispatcher ν}

theorem add_forget (sound : d.compiler.Sound) (declaration : Declaration ν) :
    (d.forget.add declaration).1 = (d.add declaration).1 ∧
      (d.forget.add declaration).2.forget = (d.add declaration).2.forget ∧
      (d.add declaration).2.compiler.Sound := by
  have empty : d.forget.compiler.Sound := Topic.Compiler.sound_empty
  cases outcome : declaration.subscribers d.settings with
  | error e =>
      obtain ⟨compiler, still, refused⟩ := add_refused sound outcome
      obtain ⟨_, _, refused'⟩ := add_refused empty outcome
      rw [refused, refused']
      exact ⟨rfl, rfl, still⟩
  | ok subscribers =>
      cases stage : d.lifecycle with
      | idle =>
          obtain ⟨compiler, still, taken⟩ := add_early sound outcome stage
          obtain ⟨_, _, taken'⟩ := add_early empty outcome stage
          rw [taken, taken']
          exact ⟨rfl, rfl, still⟩
      | active =>
          obtain ⟨compiler, still, taken⟩ := add_late sound outcome stage
          obtain ⟨_, _, taken'⟩ := add_late empty outcome stage
          rw [taken, taken']
          exact ⟨rfl, rfl, still⟩

/-- Whatever the compiler remembers, a step comes to the same. -/
theorem step_forget (sound : d.compiler.Sound) (command : Command ν) :
    (d.forget.step command).1 = (d.step command).1 ∧
      (d.forget.step command).2.1 = (d.step command).2.1 ∧
      (d.forget.step command).2.2.forget = (d.step command).2.2.forget ∧
      (d.step command).2.2.compiler.Sound := by
  cases command with
  | add declaration =>
      obtain ⟨answer, same, still⟩ := add_forget sound declaration
      simp only [step]
      generalize d.add declaration = outcome at answer same still ⊢
      generalize d.forget.add declaration = outcome' at answer same ⊢
      obtain ⟨e | pass, next⟩ := outcome
      all_goals
        obtain ⟨answer', next'⟩ := outcome'
        cases answer
        exact ⟨rfl, rfl, same, still⟩
  | event e =>
      cases e with
      | connected sessionPresent => exact ⟨rfl, rfl, rfl, sound⟩
      | subscribeResult wireTopic success => exact ⟨rfl, rfl, rfl, sound⟩
      | message m =>
          simp only [step, receive_forget]
          obtain ⟨call | call, notices⟩ := d.receive m
          · exact ⟨rfl, rfl, rfl, sound⟩
          · exact ⟨rfl, rfl, rfl, sound⟩

end Dispatcher

/-- What can be asked of a host. -/
inductive Operation (ν : Type) where
  | take (command : Command ν)
  | invoke (m : Message)
  | release (permits : Nat)

/-- What is seen of an operation. -/
inductive Outcome (ν : Type) where
  | taken (reply : Reply) (activity : Activity ν)
  | invoked (result : Except DispatchError (Option (Task.Stop ν))) (notes : List ν)
  | released (statuses : List Job.Status) (activity : Activity ν)

namespace Host

section

variable [Topic.Engine]

def perform (transport : Transport σ) (h : Host σ ν) : Operation ν → Outcome ν × Host σ ν
  | .take command =>
    let (reply, activity, h) := h.step transport command
    (.taken reply activity, h)
  | .invoke m =>
    let (result, notes, h) := h.invoke m
    (.invoked result notes, h)
  | .release permits =>
    let (statuses, activity, h) := h.release permits
    (.released statuses activity, h)

/-- A host as it can be seen from outside: its transport, its handlers and all of its dispatcher
but what the compiler remembers. -/
def forget (h : Host σ ν) : Host σ ν := { h with dispatcher := h.dispatcher.forget }

/-- The host behind operations. -/
def after (transport : Transport σ) (h : Host σ ν) : List (Operation ν) → Host σ ν
  | [] => h
  | op :: rest => (h.perform transport op).2.after transport rest

/-- All that is seen of operations: what each comes to, and the host behind it. -/
def trace (transport : Transport σ) (h : Host σ ν) :
    List (Operation ν) → List (Outcome ν × Host σ ν)
  | [] => []
  | op :: rest =>
    let (outcome, h) := h.perform transport op
    (outcome, h.forget) :: trace transport h rest

variable (transport : Transport σ) {h : Host σ ν}

theorem perform_forget (sound : h.dispatcher.compiler.Sound) (op : Operation ν) :
    (h.forget.perform transport op).1 = (h.perform transport op).1 ∧
      (h.forget.perform transport op).2.forget = (h.perform transport op).2.forget ∧
      (h.perform transport op).2.dispatcher.compiler.Sound := by
  cases op with
  | take command =>
      obtain ⟨effect, notices, same, still⟩ := Dispatcher.step_forget sound command
      simp only [perform, step, forget]
      generalize h.dispatcher.step command = outcome at effect notices same still ⊢
      generalize h.dispatcher.forget.step command = outcome' at effect notices same ⊢
      obtain ⟨effect, notices, next⟩ := outcome
      obtain ⟨effect', notices', next'⟩ := outcome'
      dsimp only at effect notices same still
      subst effect notices
      have forgotten (link : σ) (pool : Pool ν) :
          Host.forget ⟨next', link, pool⟩ = Host.forget ⟨next, link, pool⟩ := by
        rw [forget, forget, same]
      cases effect' with
      | pass p => exact ⟨rfl, forgotten _ _, still⟩
      | refused e => exact ⟨rfl, forgotten _ _, still⟩
      | nothing => exact ⟨rfl, forgotten _ _, still⟩
      | call c =>
          cases messageOf? command with
          | none => exact ⟨rfl, forgotten _ _, still⟩
          | some m => exact ⟨rfl, forgotten _ _, still⟩
  | invoke m =>
      simp only [perform, invoke, forget, Dispatcher.prepare_forget]
      obtain e | call := h.dispatcher.prepare m
      · exact ⟨rfl, rfl, sound⟩
      · cases call with
        | none => exact ⟨rfl, rfl, sound⟩
        | some c => exact ⟨rfl, rfl, sound⟩
  | release permits => exact ⟨rfl, rfl, sound⟩

/-- Nothing that is seen of a host depends on what the compiler remembers. -/
theorem trace_forget (sound : h.dispatcher.compiler.Sound) (ops : List (Operation ν)) :
    h.forget.trace transport ops = h.trace transport ops := by
  induction ops generalizing h with
  | nil => rfl
  | cons op rest ih =>
      obtain ⟨outcome, same, still⟩ := perform_forget transport sound op
      have still' := (perform_forget transport (h := h.forget)
        Topic.Compiler.sound_empty op).2.2
      simp only [trace]
      rw [outcome, same, ← ih still, ← ih still', same]

theorem trace_length (h : Host σ ν) (ops : List (Operation ν)) :
    (h.trace transport ops).length = ops.length := by
  induction ops generalizing h with
  | nil => rfl
  | cons op rest ih => simp [trace, ih]

theorem trace_append (h : Host σ ν) (front back : List (Operation ν)) :
    h.trace transport (front ++ back) =
      h.trace transport front ++ (h.after transport front).trace transport back := by
  induction front generalizing h with
  | nil => rfl
  | cons op rest ih => simp [trace, after, ih]

/-- Operations on a host are a history of its dispatcher. -/
theorem after_reflects {origin : Dispatcher ν} {history : List (Command ν)}
    (reflects : origin.Reflects history h.dispatcher) (ops : List (Operation ν)) :
    ∃ history', origin.Reflects history' (h.after transport ops).dispatcher := by
  induction ops generalizing h history with
  | nil => exact ⟨history, reflects⟩
  | cons op rest ih =>
      cases op with
      | take command =>
          have next := reflects.step command
          rw [← h.step_dispatcher transport] at next
          exact ih next
      | release permits => exact ih (h := (h.perform transport (.release permits)).2) reflects
      | invoke m =>
          have same : (h.perform transport (.invoke m)).2.dispatcher = h.dispatcher := by
            simp only [perform, invoke]
            obtain e | call := h.dispatcher.prepare m
            · rfl
            · cases call with
              | none => rfl
              | some c => rfl
          exact ih (h := (h.perform transport (.invoke m)).2) (same ▸ reflects)

/-- An operation that changes nothing that can be seen can be left out. -/
theorem trace_eraseIdx {before : List (Operation ν)}
    (sound : (h.after transport before).dispatcher.compiler.Sound) {op : Operation ν}
    (unseen : ((h.after transport before).perform transport op).2.forget =
      (h.after transport before).forget) (later : List (Operation ν)) :
    (h.trace transport (before ++ op :: later)).eraseIdx before.length =
      h.trace transport (before ++ later) := by
  have behind := (perform_forget transport sound op).2.2
  rw [trace_append, trace_append, ← trace_length transport h before,
    List.eraseIdx_append_of_length_le (Nat.le_refl _), Nat.sub_self]
  simp only [trace, List.eraseIdx_cons_zero]
  rw [← trace_forget transport behind, unseen, trace_forget transport sound]

theorem trace_getElem? (h : Host σ ν) (before : List (Operation ν)) (op : Operation ν)
    (later : List (Operation ν)) :
    (h.trace transport (before ++ op :: later))[before.length]? =
      some (((h.after transport before).perform transport op).1,
        ((h.after transport before).perform transport op).2.forget) := by
  rw [trace_append, ← trace_length transport h before,
    List.getElem?_append_right (Nat.le_refl _), Nat.sub_self]
  rfl

/-- A declaration that does not compile is all that is seen of asking for it. -/
theorem perform_refused {declaration : Declaration ν} {e : DeclarationError}
    (sound : h.dispatcher.compiler.Sound)
    (outcome : declaration.subscribers h.dispatcher.settings = .error e) :
    (h.perform transport (.take (.add declaration))).1 = .taken (.refused e) {} ∧
      (h.perform transport (.take (.add declaration))).2.forget = h.forget := by
  obtain ⟨compiler, _, refused⟩ := Dispatcher.add_refused sound outcome
  constructor
  · simp only [perform, step, Dispatcher.step, refused]
  · simp only [perform, step, Dispatcher.step, refused]
    rfl

/-- A declaration with a template that does not compile is refused for the first such template.
No request is made, and nothing but the refusal is seen of it: the host stays as it was, and
whatever is asked of it later goes on as if the declaration had never come. -/
theorem refused_declaration_leaves_no_trace {settings : Settings} {transforms : Transforms}
    {hook : Option Hook} {declarations : List (Declaration ν)} {h : Host σ ν}
    (built : Dispatcher.ofDeclarations settings transforms hook declarations = .ok h.dispatcher)
    (transport : Transport σ) (before : List (Operation ν)) (declaration : Declaration ν)
    (bad : ∃ template ∈ declaration.topics, ∃ cause,
      Topic.Compiled.compile (Topic.substitute template settings.bindings)
        (declaration.policy settings.policy) = .error cause) :
    ∃ front template back cause,
      declaration.topics = front ++ template :: back ∧
      (∀ earlier ∈ front, ∃ topic,
        Topic.Compiled.compile (Topic.substitute earlier settings.bindings)
          (declaration.policy settings.policy) = .ok topic) ∧
      Topic.Compiled.compile (Topic.substitute template settings.bindings)
        (declaration.policy settings.policy) = .error cause ∧
      ((h.after transport before).dispatcher.step (.add declaration)).1.requests = [] ∧
      ∀ later : List (Operation ν),
        (h.trace transport (before ++ .take (.add declaration) :: later))[before.length]? =
          some (.taken (.refused (.pattern declaration.owner
            (Topic.substitute template settings.bindings) cause)) {},
            (h.after transport before).forget) ∧
        (h.trace transport (before ++ .take (.add declaration) :: later)).eraseIdx before.length =
          h.trace transport (before ++ later) := by
  obtain ⟨_, _, unused, rfl, _⟩ := Dispatcher.ofDeclarations_ok built
  have fails : ∃ template ∈ declaration.topics, ∃ e,
      declaration.subscriber h.dispatcher.settings template = .error e := by
    obtain ⟨template, mem, cause, failed⟩ := bad
    exact ⟨template, mem, _, Declaration.subscriber_error_iff.mpr ⟨cause, failed, rfl⟩⟩
  obtain ⟨front, template, back, _, whole, fine, first, result⟩ := mapM_first_error fails
  obtain ⟨cause, failed, rfl⟩ := Declaration.subscriber_error_iff.mp first
  obtain ⟨history, reflects⟩ := after_reflects transport unused.reflects before
  have outcome := result
  rw [← reflects.settings] at outcome
  obtain ⟨refused, same⟩ := perform_refused transport reflects.sound outcome
  refine ⟨front, template, back, cause, whole, ?_, failed, ?_, fun later => ⟨?_, ?_⟩⟩
  · exact fun earlier mem => Declaration.subscriber_ok_iff.mp (fine earlier mem)
  · rw [(Dispatcher.step_refused reflects.sound declaration _).mpr outcome]
    rfl
  · rw [trace_getElem?, refused, same, reflects.settings]
  · exact trace_eraseIdx transport reflects.sound same later

end

/-- Two templates, of which the first is learned before the second is refused. -/
def rooms : Declaration Unit where
  topics := ["a/+", "b#"]
  handler := .idle
  owner := "rooms"

/-- What was learned of rooms serves halls, and nobody can tell. -/
theorem rooms_leave_no_trace :
    ∃ h : Host Outbox Unit, Dispatcher.ofDeclarations {} {} none [] = .ok h.dispatcher ∧
      (h.after Outbox.transport [.take (.event (.connected false)),
        .take (.add rooms)]).dispatcher.compiler.cachedRoutes = 1 ∧
      (h.trace Outbox.transport [.take (.event (.connected false)), .take (.add rooms),
          .take (.add { topics := ["a/+"], handler := .idle, owner := "halls" })]).eraseIdx 1 =
        h.trace Outbox.transport [.take (.event (.connected false)),
          .take (.add { topics := ["a/+"], handler := .idle, owner := "halls" })] := by
  obtain ⟨d, built⟩ : ∃ d : Dispatcher Unit, Dispatcher.ofDeclarations {} {} none [] = .ok d :=
    ⟨_, rfl⟩
  obtain ⟨_, _, _, _, _, _, _, _, unseen⟩ :=
    refused_declaration_leaves_no_trace (h := ⟨d, {}, {}⟩) built Outbox.transport
      [.take (.event (.connected false))] rooms
      ⟨"b#", by simp [rooms], .mixedLevel "b#", rfl⟩
  refine ⟨⟨d, {}, {}⟩, built, ?_, (unseen _).2⟩
  cases built
  rfl

end Host
end MqttRouting
