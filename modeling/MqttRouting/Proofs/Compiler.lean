import MqttRouting.Proofs.Registry
import MqttRouting.Dispatcher.Step

/-!
Compiling with a memory of matchers. What is remembered under a route is the matcher of
that route, so a compiler answers as one without a memory does. The subscribers of a
declaration can therefore be told from the declaration and the settings alone.
-/

namespace MqttRouting

theorem mem_of_mapM {α β ε : Type} {f : α → Except ε β} {list : List α} {made : List β}
    (h : list.mapM f = .ok made) {b : β} (mem : b ∈ made) : ∃ a ∈ list, f a = .ok b := by
  induction list generalizing made with
  | nil =>
      cases h
      cases mem
  | cons a rest ih =>
      rw [List.mapM_cons] at h
      cases first : f a with
      | error e =>
          rw [first] at h
          cases h
      | ok b' =>
          cases others : rest.mapM f with
          | error e =>
              rw [first, others] at h
              cases h
          | ok made' =>
              rw [first, others] at h
              cases h
              rcases List.mem_cons.mp mem with rfl | mem
              · exact ⟨a, List.mem_cons_self .., first⟩
              · obtain ⟨a', mem', same⟩ := ih others mem
                exact ⟨a', List.mem_cons_of_mem a mem', same⟩

variable {ν : Type} [Topic.Engine]

namespace Topic

theorem Matcher.compile_route {route : String} {matcher : Matcher}
    (h : Matcher.compile route = .ok matcher) : matcher.route = route := by
  unfold Matcher.compile at h
  split at h
  · cases h
  · split at h
    · cases h
    · cases h
      rfl

/-- What is compiled has the matcher of what is behind the prefixes of its template. -/
theorem Compiled.compile_ok {template : String} {policy : Policy} {topic : Compiled}
    (h : compile template policy = .ok topic) :
    ∃ matcher, Matcher.compile (stripPrefixes template) = .ok matcher ∧
      topic = .ofMatcher matcher policy := by
  unfold compile at h
  cases built : Matcher.compile (stripPrefixes template) with
  | error e =>
      rw [built] at h
      cases h
  | ok matcher =>
      rw [built] at h
      cases h
      exact ⟨matcher, rfl, rfl⟩

namespace Compiler

/-- A route is known, or is refused, or is new and remembered from now on. -/
theorem compile_cases (compiler : Compiler) (template : String) (policy : Policy) :
    (∃ matcher, compiler.matchers.find? (stripPrefixes template) = some matcher ∧
      compiler.compile template policy = (.ok (.ofMatcher matcher policy), compiler)) ∨
    (∃ e, Matcher.compile (stripPrefixes template) = .error e ∧
      compiler.compile template policy = (.error e, compiler)) ∨
    ∃ matcher, compiler.matchers.find? (stripPrefixes template) = none ∧
      Matcher.compile (stripPrefixes template) = .ok matcher ∧
      compiler.compile template policy = (.ok (.ofMatcher matcher policy),
        ⟨compiler.matchers.insert (stripPrefixes template) matcher⟩) := by
  cases found : compiler.matchers.find? (stripPrefixes template) with
  | some matcher =>
      refine .inl ⟨matcher, rfl, ?_⟩
      simp only [Compiler.compile, found]
  | none =>
      cases built : Matcher.compile (stripPrefixes template) with
      | error e =>
          refine .inr (.inl ⟨e, rfl, ?_⟩)
          simp only [Compiler.compile, found, built]
      | ok matcher =>
          refine .inr (.inr ⟨matcher, rfl, rfl, ?_⟩)
          simp only [Compiler.compile, found, built, Matcher.compile_route built]

/-- What is remembered under a route is its matcher. -/
def Sound (compiler : Compiler) : Prop :=
  ∀ route matcher, compiler.matchers.find? route = some matcher →
    Matcher.compile route = .ok matcher

theorem sound_empty : Sound {} := by
  intro route matcher h
  cases h

/-- A sound memory changes no answer, and stays sound. -/
theorem Sound.compile {compiler : Compiler} (h : compiler.Sound) (template : String)
    (policy : Policy) :
    (compiler.compile template policy).1 = Compiled.compile template policy ∧
      (compiler.compile template policy).2.Sound := by
  obtain ⟨matcher, found, step⟩ | ⟨e, failed, step⟩ | ⟨matcher, _, built, step⟩ :=
    compiler.compile_cases template policy
  · rw [step, Compiled.compile, h _ _ found]
    exact ⟨rfl, h⟩
  · rw [step, Compiled.compile, failed]
    exact ⟨rfl, h⟩
  · rw [step, Compiled.compile, built]
    refine ⟨rfl, ?_⟩
    intro route other remembered
    rw [Dictionary.find?_insert] at remembered
    split at remembered
    · cases remembered
      rw [‹route = _›, built]
    · exact h route other remembered

/-- The compiler behind templates compiled one after the other. -/
def after (calls : List (String × Policy)) : Compiler :=
  calls.foldl (fun compiler (template, policy) => (compiler.compile template policy).2) {}

theorem sound_after (calls : List (String × Policy)) : (after calls).Sound := by
  have behind (compiler : Compiler) (h : compiler.Sound) :
      Sound (calls.foldl (fun c (template, policy) => (c.compile template policy).2) compiler) := by
    induction calls generalizing compiler with
    | nil => exact h
    | cons call rest ih => exact ih _ (h.compile call.1 call.2).2
  exact behind {} sound_empty

end Compiler
end Topic

namespace Declaration

/-- The subscriber of one template, compiled on its own. -/
def subscriber (settings : Settings) (declaration : Declaration ν) (template : String) :
    Except DeclarationError (Subscriber ν) :=
  let resolved := Topic.substitute template settings.bindings
  match Topic.Compiled.compile resolved (declaration.policy settings.policy) with
  | .ok topic => .ok ⟨topic, declaration⟩
  | .error cause => .error (.pattern declaration.owner resolved cause)

/-- The subscribers of all templates in order, or the error of the first bad template. -/
def subscribers (settings : Settings) (declaration : Declaration ν) :
    Except DeclarationError (List (Subscriber ν)) :=
  declaration.topics.mapM (declaration.subscriber settings)

/-- A subscriber is a template of its declaration, compiled under the policy of both. -/
theorem mem_subscribers {settings : Settings} {declaration : Declaration ν}
    {subscribers : List (Subscriber ν)}
    (compiled : declaration.subscribers settings = .ok subscribers) {s : Subscriber ν}
    (mem : s ∈ subscribers) :
    s.declaration = declaration ∧ ∃ template ∈ declaration.topics,
      Topic.Compiled.compile (Topic.substitute template settings.bindings)
        (declaration.policy settings.policy) = .ok s.topic := by
  obtain ⟨template, among, made⟩ := mem_of_mapM compiled mem
  unfold subscriber at made
  cases outcome : Topic.Compiled.compile (Topic.substitute template settings.bindings)
      (declaration.policy settings.policy) with
  | error cause =>
      simp only [outcome] at made
      cases made
  | ok topic =>
      simp only [outcome] at made
      cases made
      exact ⟨rfl, template, among, outcome⟩

/-- What a declaration adds where it is taken, and nothing where it is not. -/
def accepted (settings : Settings) (declaration : Declaration ν) : List (Subscriber ν) :=
  match declaration.subscribers settings with
  | .ok subscribers => subscribers
  | .error _ => []

end Declaration

namespace Dispatcher

/-- The subscriber of a template can be asked from any sound compiler. -/
theorem subscriber_eq (settings : Settings) (declaration : Declaration ν)
    {compiler : Topic.Compiler} (h : compiler.Sound) (template : String) :
    declaration.subscriber settings template =
      match (compiler.compile (Topic.substitute template settings.bindings)
          (declaration.policy settings.policy)).1 with
      | .ok topic => .ok ⟨topic, declaration⟩
      | .error cause => .error (.pattern declaration.owner
          (Topic.substitute template settings.bindings) cause) := by
  rw [(h.compile _ _).1]
  rfl

theorem compileTemplates_eq (settings : Settings) (declaration : Declaration ν)
    {compiler : Topic.Compiler} (h : compiler.Sound) (templates : List String) :
    (compileTemplates settings declaration compiler templates).1 =
        templates.mapM (declaration.subscriber settings) ∧
      (compileTemplates settings declaration compiler templates).2.Sound := by
  induction templates generalizing compiler with
  | nil => exact ⟨rfl, h⟩
  | cons template rest ih =>
      have sound := (h.compile (Topic.substitute template settings.bindings)
        (declaration.policy settings.policy)).2
      rw [List.mapM_cons, subscriber_eq settings declaration h]
      simp only [compileTemplates]
      generalize compiler.compile _ _ = compiled at sound ⊢
      obtain ⟨cause | topic, next⟩ := compiled
      · exact ⟨rfl, sound⟩
      · obtain ⟨others, still⟩ := ih sound
        simp only [← others]
        generalize compileTemplates settings declaration next rest = remaining at still ⊢
        obtain ⟨e | subscribers, last⟩ := remaining
        · exact ⟨rfl, still⟩
        · exact ⟨rfl, still⟩

/-- Compiling a declaration answers with its subscribers and keeps what it adds; besides
only the memory of the compiler changes. -/
theorem compile_eq {d : Dispatcher ν} (h : d.compiler.Sound) (declaration : Declaration ν) :
    ∃ compiler : Topic.Compiler, compiler.Sound ∧
      d.compile declaration =
        (declaration.subscribers d.settings,
          { d with compiler, compiled := d.compiled ++ declaration.accepted d.settings }) := by
  obtain ⟨answer, sound⟩ := compileTemplates_eq d.settings declaration h declaration.topics
  refine ⟨_, sound, ?_⟩
  unfold compile Declaration.accepted Declaration.subscribers
  rw [← answer]
  cases compileTemplates d.settings declaration d.compiler declaration.topics with
  | mk result compiler =>
      cases result with
      | error e => simp
      | ok subscribers => rfl

end Dispatcher
end MqttRouting
