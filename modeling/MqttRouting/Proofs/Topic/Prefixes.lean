import MqttRouting.Proofs.Compiler
import MqttRouting.Topic.Engine.Sized

/-!
Prefixes on and off. A policy puts its prefix in front of any route; only one queue prefix and one
share prefix come off again, and of the share prefixes only those whose group is a word. What was
put on comes off exactly where the rest cannot be taken for a prefix as well.
-/

namespace MqttRouting.Topic

/-- A share group that is recognised, a word of ASCII letters and digits. -/
def IsGroup (group : List Char) : Prop := group ≠ [] ∧ ∀ c ∈ group, isGroupChar c = true

instance : DecidablePred IsGroup := fun group =>
  decidable_of_iff (group.isEmpty = false ∧ group.all isGroupChar = true) (by simp [IsGroup])

/-- The text begins with a share prefix that is recognised. -/
def BeginsShared (text : List Char) : Prop :=
  ∃ group route, IsGroup group ∧ text = sharePrefix.toList ++ (group ++ '/' :: route)

/-! Prefixes of a text. -/

theorem afterStart?_append (start rest : List Char) :
    afterStart? start (start ++ rest) = some rest := by
  induction start with
  | nil => rfl
  | cons c start ih => rw [List.cons_append, afterStart?, if_pos rfl, ih]

theorem append_of_afterStart? {start text rest : List Char}
    (h : afterStart? start text = some rest) : text = start ++ rest := by
  induction start generalizing text with
  | nil =>
      cases h
      rfl
  | cons c start ih =>
      cases text with
      | nil => cases h
      | cons c' text =>
          rw [afterStart?] at h
          by_cases same : c = c'
          · rw [if_pos same] at h
            rw [ih h, same, List.cons_append]
          · rw [if_neg same] at h
            cases h

theorem IsGroup.no_slash {group : List Char} (h : IsGroup group) : '/' ∉ group := by
  intro mem
  have word := h.2 _ mem
  cases word

theorem stripShare_of_group {group : List Char} (h : IsGroup group) (route : List Char) :
    stripShare (sharePrefix.toList ++ (group ++ '/' :: route)) = route := by
  have before : ∀ c ∈ group, (c != '/') = true := by
    intro c mem
    rw [bne_iff_ne]
    rintro rfl
    exact h.no_slash mem
  have named : group.isEmpty = false := List.isEmpty_eq_false_iff.mpr h.1
  have word : group.all isGroupChar = true := List.all_eq_true.mpr h.2
  rw [stripShare, afterStart?_append]
  simp only [List.takeWhile_append_of_pos before, List.dropWhile_append_of_pos before]
  simp [named, word]

/-- Nothing is taken off but a share prefix that is recognised. -/
theorem stripShare_cases (text : List Char) :
    stripShare text = text ∨
      ∃ group, IsGroup group ∧ text = sharePrefix.toList ++ (group ++ '/' :: stripShare text) := by
  rw [stripShare]
  cases behind : afterStart? sharePrefix.toList text with
  | none => exact .inl rfl
  | some rest =>
      dsimp only
      cases tail : rest.dropWhile (· != '/') with
      | nil => exact .inl rfl
      | cons slash route =>
          dsimp only
          by_cases recognised : (!(rest.takeWhile (· != '/')).isEmpty &&
              (rest.takeWhile (· != '/')).all isGroupChar) = true
          · rw [if_pos recognised]
            rw [Bool.and_eq_true, Bool.not_eq_true', List.isEmpty_eq_false_iff,
              List.all_eq_true] at recognised
            have sep : slash = '/' := by
              have stops := List.head?_dropWhile_not (· != '/') rest
              rw [tail] at stops
              simpa using stops
            subst sep
            refine .inr ⟨_, recognised, ?_⟩
            rw [append_of_afterStart? behind, ← tail, List.takeWhile_append_dropWhile]
          · exact .inl (if_neg recognised)

theorem shared_ne (group route : List Char) :
    sharePrefix.toList ++ (group ++ '/' :: route) ≠ route := by
  intro same
  have lengths := congrArg List.length same
  simp only [List.length_append, List.length_cons] at lengths
  omega

theorem stripShare_eq_self_iff {text : List Char} :
    stripShare text = text ↔ ¬ BeginsShared text := by
  constructor
  · rintro same ⟨group, route, named, rfl⟩
    rw [stripShare_of_group named] at same
    exact shared_ne group route same.symm
  · intro plain
    obtain same | ⟨group, named, whole⟩ := stripShare_cases text
    · exact same
    · exact absurd ⟨group, _, named, whole⟩ plain

instance : DecidablePred BeginsShared := fun text =>
  decidable_of_iff (¬ stripShare text = text) (by rw [stripShare_eq_self_iff, Classical.not_not])

/-- A group that does not count as one stays in front of the route. -/
theorem stripShare_share_iff {group route : List Char} :
    stripShare (sharePrefix.toList ++ (group ++ '/' :: route)) = route ↔ IsGroup group := by
  constructor
  · intro stripped
    obtain same | ⟨group', named, whole⟩ :=
      stripShare_cases (sharePrefix.toList ++ (group ++ '/' :: route))
    · exact absurd (same.symm.trans stripped) (shared_ne group route)
    · rw [stripped, List.append_cancel_left_eq, List.append_cancel_right_eq] at whole
      exact whole ▸ named
  · intro named
    exact stripShare_of_group named route

theorem stripQueue_queue (route : List Char) :
    stripQueue (queuePrefix.toList ++ route) = route := by
  rw [stripQueue, afterStart?_append, Option.getD_some]

theorem stripQueue_share (rest : List Char) :
    stripQueue (sharePrefix.toList ++ rest) = sharePrefix.toList ++ rest := rfl

/-! Policies. -/

/-- Where the prefix of a policy comes off a route again: that of a queue if no share prefix
follows it, that of a share group if its name is a word, and none if the route has none itself. -/
def Policy.Reversible (policy : Policy) (route : String) : Prop :=
  (policy.queue = true ∧ ¬ BeginsShared route.toList) ∨
    (policy.queue = false ∧ ∃ group, policy.share = some group ∧ IsGroup group.toList) ∨
    (policy.queue = false ∧ (policy.share = none ∨ policy.share = some "") ∧
      stripPrefixes route = route)

theorem stripPrefixes_eq_iff {template route : String} :
    stripPrefixes template = route ↔ stripShare (stripQueue template.toList) = route.toList := by
  rw [stripPrefixes, ← String.toList_inj, String.toList_ofList]

theorem Policy.stripPrefixes_queue (policy : Policy) (route : String)
    (queue : policy.queue = true) :
    stripPrefixes (policy.wireTopic route) = route ↔ ¬ BeginsShared route.toList := by
  rw [Policy.wireTopic, if_pos queue, stripPrefixes_eq_iff, String.toList_append, stripQueue_queue,
    stripShare_eq_self_iff]

theorem Policy.stripPrefixes_share (policy : Policy) (route : String) {group : String}
    (alone : policy.queue = false) (shared : policy.share = some group) (named : group ≠ "") :
    stripPrefixes (policy.wireTopic route) = route ↔ IsGroup group.toList := by
  have marked : (policy.wireTopic route).toList =
      sharePrefix.toList ++ (group.toList ++ '/' :: route.toList) := by
    simp [Policy.wireTopic, alone, shared, named]
  rw [stripPrefixes_eq_iff, marked, stripQueue_share, stripShare_share_iff]

theorem Policy.wireTopic_plain (policy : Policy) (route : String) (alone : policy.queue = false)
    (plain : policy.share = none ∨ policy.share = some "") : policy.wireTopic route = route := by
  rcases plain with none | empty
  · simp [Policy.wireTopic, alone, none]
  · simp [Policy.wireTopic, alone, empty]

theorem Policy.stripPrefixes_iff_reversible (policy : Policy) (route : String) :
    stripPrefixes (policy.wireTopic route) = route ↔ policy.Reversible route := by
  rw [Reversible]
  cases queue : policy.queue with
  | true => simp [policy.stripPrefixes_queue route queue]
  | false =>
      by_cases plain : policy.share = none ∨ policy.share = some ""
      · have unnamed : ¬ ∃ group, policy.share = some group ∧ IsGroup group.toList := by
          rintro ⟨group, shared, named⟩
          rcases plain with none | empty
          · cases none.symm.trans shared
          · cases empty.symm.trans shared
            exact named.1 rfl
        simp [policy.wireTopic_plain route queue plain, plain, unnamed]
      · obtain ⟨absent, named⟩ := not_or.mp plain
        obtain ⟨group, shared⟩ := Option.ne_none_iff_exists'.mp absent
        rw [shared, Option.some.injEq] at named
        simp [policy.stripPrefixes_share route queue shared named, shared, named]

namespace Compiled

/-- A wire topic compiles to the topic it is of exactly if the prefix comes off again. -/
theorem compile_wireTopic_iff [Engine] {template : String} {policy : Policy} {topic : Compiled}
    (compiled : compile template policy = .ok topic) :
    compile topic.wireTopic policy = .ok topic ↔
      stripPrefixes (policy.wireTopic topic.route) = topic.route := by
  obtain ⟨matcher, built, rfl⟩ := compile_ok compiled
  have own := Matcher.compile_route built
  rw [← own] at built
  constructor
  · intro again
    obtain ⟨matcher', built', same⟩ := compile_ok again
    obtain rfl : matcher = matcher' := congrArg Compiled.matcher same
    exact (Matcher.compile_route built').symm
  · intro stripped
    change stripPrefixes (policy.wireTopic matcher.route) = matcher.route at stripped
    change (Matcher.compile (stripPrefixes (policy.wireTopic matcher.route))).map _ = _
    rw [stripped, built]
    rfl

/-- Taking prefixes off undoes putting them on just where the policy is reversible, for every
route; and there alone the wire topic of a compiled topic compiles to the same topic under the
same policy, with or without a memory. -/
theorem prefixes_undone_iff [Engine] (policy : Policy) (route : String) :
    (stripPrefixes (policy.wireTopic route) = route ↔ policy.Reversible route) ∧
      ∀ (calls : List (String × Policy)) (template : String) (topic : Compiled),
        compile template policy = .ok topic → topic.route = route →
          (compile topic.wireTopic policy = .ok topic ↔ policy.Reversible route) ∧
          (((Compiler.after calls).compile topic.wireTopic policy).1 = .ok topic ↔
            policy.Reversible route) := by
  refine ⟨policy.stripPrefixes_iff_reversible route, ?_⟩
  rintro calls template topic compiled rfl
  rw [((Compiler.sound_after calls).compile topic.wireTopic policy).1, and_self,
    compile_wireTopic_iff compiled, policy.stripPrefixes_iff_reversible]

/-- The topic of a crew is found again under its wire topic. That of a queue is not, where its route
begins with another prefix. -/
theorem crew_is_found_again_and_queue_is_not :
    (∃ topic, compile "$share/old/jobs/#" { share := some "crew1" } = .ok topic ∧
      topic.wireTopic = "$share/crew1/jobs/#" ∧
      compile "$share/crew1/jobs/#" { share := some "crew1" } = .ok topic) ∧
    ∃ topic, compile "$share/a/$share/b/c" { queue := true } = .ok topic ∧
      topic.wireTopic = "$queue/$share/b/c" ∧
      compile "$queue/$share/b/c" { queue := true } ≠ .ok topic := by
  constructor
  · obtain ⟨topic, compiled⟩ : ∃ topic,
        compile "$share/old/jobs/#" { share := some "crew1" } = .ok topic := ⟨_, rfl⟩
    have undone := ((prefixes_undone_iff { share := some "crew1" } "jobs/#").2 [] _ topic compiled
      (by cases compiled; rfl)).1
    cases compiled
    exact ⟨_, rfl, rfl, undone.mpr (.inr (.inl ⟨rfl, "crew1", rfl, by decide⟩))⟩
  · obtain ⟨topic, compiled⟩ : ∃ topic,
        compile "$share/a/$share/b/c" { queue := true } = .ok topic := ⟨_, rfl⟩
    have undone := ((prefixes_undone_iff { queue := true } "$share/b/c").2 [] _ topic compiled
      (by cases compiled; rfl)).1
    cases compiled
    refine ⟨_, rfl, rfl, fun again => ?_⟩
    have reversible := undone.mp again
    simp [Policy.Reversible] at reversible
    exact reversible (by decide)

end Compiled
end MqttRouting.Topic
