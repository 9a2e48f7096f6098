import Mathlib.Data.List.Dedup
import MqttRouting.Proofs.Compiler
import MqttRouting.Topic.Engine.Sized

/-!
What a compiler remembers. After any calls it holds a matcher for each route that has compiled
and for no other, so it answers every call as it would without a memory, and as many matchers
have been built as there are different routes.
-/

namespace MqttRouting.Topic.Compiler

section

variable [Engine]

/-- What a compiler answers to calls one after the other. -/
def answers : Compiler → List (String × Policy) → List (Except PatternError Compiled)
  | _, [] => []
  | compiler, (template, policy) :: rest =>
    (compiler.compile template policy).1 :: (compiler.compile template policy).2.answers rest

theorem Sound.answers {compiler : Compiler} (h : compiler.Sound) (calls : List (String × Policy)) :
    compiler.answers calls = calls.map fun call => Compiled.compile call.1 call.2 := by
  induction calls generalizing compiler with
  | nil => rfl
  | cons call rest ih =>
      obtain ⟨answer, sound⟩ := h.compile call.1 call.2
      rw [Compiler.answers, List.map_cons, answer, ih sound]

/-! The memory. -/

/-- The routes that have compiled. -/
def compiledRoutes (answers : List (Except PatternError Compiled)) : List String :=
  answers.filterMap fun answer => answer.toOption.map Compiled.route

/-- A compiler remembers these routes and no other, each of them once and with its own matcher. -/
structure Remembers (compiler : Compiler) (routes : List String) : Prop where
  own : ∀ entry ∈ compiler.matchers, Matcher.compile entry.1 = .ok entry.2
  once : compiler.matchers.keys.Nodup
  mem_iff : ∀ route, route ∈ compiler.matchers.keys ↔ route ∈ routes

namespace Remembers

theorem empty : Remembers {} [] where
  own := nofun
  once := .nil
  mem_iff _ := .rfl

variable {compiler : Compiler} {routes : List String}

theorem compile (h : compiler.Remembers routes) (template : String) (policy : Policy) :
    (compiler.compile template policy).2.Remembers
      (routes ++ compiledRoutes [(compiler.compile template policy).1]) := by
  have answered (matcher : Matcher) :
      compiledRoutes [.ok (.ofMatcher matcher policy)] = [matcher.route] := rfl
  obtain ⟨matcher, found, step⟩ | ⟨e, _, step⟩ | ⟨matcher, new, built, step⟩ :=
    compiler.compile_cases template policy
  · have route := Matcher.compile_route (h.own _ (Dictionary.mem_of_find? found))
    have known := (h.mem_iff _).mp (Dictionary.mem_keys_of_find? found)
    rw [step, answered, route]
    refine ⟨h.own, h.once, fun other => ?_⟩
    rw [h.mem_iff, List.mem_append, List.mem_singleton]
    exact ⟨.inl, fun mem => mem.elim id fun same => same ▸ known⟩
  · rw [step, show compiledRoutes [.error e] = [] from rfl, List.append_nil]
    exact h
  · have keys := Dictionary.keys_insert matcher new
    rw [step, answered, Matcher.compile_route built]
    refine ⟨fun entry mem => ?_, ?_, fun other => ?_⟩
    · cases Dictionary.mem_insert mem with
      | inl same => rw [same, built]
      | inr mem => exact h.own entry mem
    · rw [keys.nodup_iff, List.nodup_cons, ← Dictionary.find?_eq_none_iff]
      exact ⟨new, h.once⟩
    · rw [keys.mem_iff, List.mem_cons, h.mem_iff, List.mem_append, List.mem_singleton, or_comm]

theorem run (h : compiler.Remembers routes) (calls : List (String × Policy)) :
    (calls.foldl (fun c (template, policy) => (c.compile template policy).2) compiler).Remembers
      (routes ++ compiledRoutes (compiler.answers calls)) := by
  induction calls generalizing compiler routes with
  | nil => simpa [answers, compiledRoutes] using h
  | cons call rest ih =>
      have behind := ih (h.compile call.1 call.2)
      rw [List.append_assoc, compiledRoutes, compiledRoutes, ← List.filterMap_append] at behind
      exact behind

theorem cachedRoutes (h : compiler.Remembers routes) :
    compiler.cachedRoutes = routes.dedup.length := by
  have same : compiler.matchers.keys.Perm routes.dedup := by
    rw [List.perm_ext_iff_of_nodup h.once routes.nodup_dedup]
    intro route
    rw [h.mem_iff, List.mem_dedup]
  rw [← same.length_eq]
  exact (List.length_map Prod.fst).symm

end Remembers

/-- Every call is answered as without a memory, each matcher is kept under its own route, and
there is one for each route that has compiled. -/
theorem answers_as_without_memory (calls : List (String × Policy)) :
    answers {} calls = (calls.map fun call => Compiled.compile call.1 call.2) ∧
      (∀ entry ∈ (after calls).matchers, Matcher.compile entry.1 = .ok entry.2) ∧
      (after calls).cachedRoutes = (compiledRoutes (answers {} calls)).dedup.length := by
  have remembers : (after calls).Remembers (compiledRoutes (answers {} calls)) :=
    Remembers.empty.run calls
  exact ⟨sound_empty.answers calls, remembers.own, remembers.cachedRoutes⟩

end

/-- One route under three prefixes, and a template that is refused in between. -/
def hqCalls : List (String × Policy) :=
  [("$queue/hq/+", {}), ("b#", {}), ("hq/+", { queue := true }),
    ("$share/crew/hq/+", { share := some "night" })]

theorem hq_is_remembered_once :
    ∃ entry ∈ (after hqCalls).matchers, Matcher.compile entry.1 = .ok entry.2 ∧
      (after hqCalls).cachedRoutes = 1 := by
  obtain ⟨_, own, counted⟩ := answers_as_without_memory hqCalls
  have held : ("hq/+", (⟨"hq/+", [.literal "hq".toList, .plus],
      .ofSegments [.literal "hq".toList, .plus]⟩ : Matcher)) ∈ (after hqCalls).matchers := by
    decide
  refine ⟨_, held, own _ held, counted.trans ?_⟩
  decide

end MqttRouting.Topic.Compiler
