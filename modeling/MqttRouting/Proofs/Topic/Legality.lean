import Mathlib.Data.String.Basic
import MqttRouting.Proofs.Compiler
import MqttRouting.Proofs.Topic.Delivery
import MqttRouting.Proofs.Topic.Levels
import MqttRouting.Topic.Engine.Sized

/-!
Legal subscriptions. A topic is checked as a route, and its mark comes in front of it
afterwards, with a group that nobody has looked at. What reaches the broker is legal as long
as the mark leaves it short enough and the group is one plain level.
-/

namespace MqttRouting.Topic

/-- A share subscription as a broker reads it: the second level is the group, and all behind
it is the filter. -/
def readShare? (wireTopic : String) : Option (String × String) :=
  match levels wireTopic.toList with
  | first :: group :: filter :: rest =>
    if first = "$share".toList then
      some (String.ofList group, String.ofList (joinLevels (filter :: rest)))
    else none
  | _ => none

theorem readShare?_group {group : String} (clean : '/' ∉ group.toList) (route : String) :
    readShare? ((Delivery.share group).mark ++ route) = some (group, route) := by
  have chars : ((Delivery.share group).mark ++ route).toList =
      "$share".toList ++ '/' :: (group.toList ++ '/' :: route.toList) := by
    simp [Delivery.mark, sharePrefix]
  have cut : levels ((Delivery.share group).mark ++ route).toList =
      "$share".toList :: group.toList :: levels route.toList := by
    rw [chars, levels_slash (by decide), levels_slash clean]
  obtain ⟨filter, rest, filters, _⟩ := levels_split route.toList
  have joined : joinLevels (filter :: rest) = route.toList := by
    rw [← filters, joinLevels_levels]
  rw [readShare?, cut, filters]
  simp [joined]

namespace Compiled

/-- A subscription that a broker takes, and takes as it was meant. -/
structure Legal (delivery : Delivery) (topic : Compiled) : Prop where
  fits : topic.wireTopic.utf8ByteSize ≤ maxLength
  noNull : '\x00' ∉ topic.wireTopic.toList
  oneLevel : ∀ group, delivery = .share group → ∀ c ∈ group.toList, c ∉ ['/', '+', '#']
  readBack : ∀ group, delivery = .share group →
    readShare? topic.wireTopic = some (group, topic.route)

theorem legal_iff {delivery : Delivery} {topic : Compiled}
    (marked : topic.wireTopic = delivery.mark ++ topic.route)
    (noNull : '\x00' ∉ topic.route.toList) :
    topic.Legal delivery ↔
      delivery.mark.utf8ByteSize + topic.route.utf8ByteSize ≤ maxLength ∧
        ∀ group, delivery = .share group →
          ∀ c ∈ group.toList, c ∉ ['\x00', '/', '+', '#'] := by
  rw [← String.utf8ByteSize_append, ← marked]
  constructor
  · intro legal
    refine ⟨legal.fits, ?_⟩
    rintro group rfl c mem
    have plain := legal.oneLevel group rfl c mem
    have other : c ≠ '\x00' := by
      rintro rfl
      apply legal.noNull
      rw [marked, Delivery.mark]
      simp [mem]
    simpa [other] using plain
  · rintro ⟨fits, plain⟩
    refine ⟨fits, ?_, ?_, ?_⟩
    · rw [marked, String.toList_append, List.mem_append, not_or]
      refine ⟨?_, noNull⟩
      cases delivery with
      | everyone => simp [Delivery.mark]
      | queue => decide
      | share group =>
          have absent : '\x00' ∉ group.toList := by
            intro mem
            exact plain group rfl _ mem (by simp)
          simp [Delivery.mark, sharePrefix, absent]
    · intro group shared c mem
      exact fun wild => plain group shared c mem (List.mem_cons_of_mem _ wild)
    · rintro group rfl
      rw [marked]
      apply readShare?_group
      intro mem
      exact plain group rfl _ mem (by simp)

/-- What a compiler lets through, with or without a memory, is a route that fits behind its
mark. It is legal exactly if both together are short enough and no character of a share group
is a null character, a slash or a wildcard. -/
theorem compile_legal_iff [Engine] {calls : List (String × Policy)} {template : String}
    {policy : Policy} {topic : Compiled}
    (compiled : compile template policy = .ok topic ∨
      ((Compiler.after calls).compile template policy).1 = .ok topic) :
    (topic.route = stripPrefixes template ∧ topic.route.utf8ByteSize ≤ maxLength ∧
      '\x00' ∉ topic.route.toList ∧ topic.wireTopic = policy.delivery.mark ++ topic.route) ∧
    (topic.Legal policy.delivery ↔
      policy.delivery.mark.utf8ByteSize + topic.route.utf8ByteSize ≤ maxLength ∧
        ∀ group, policy.delivery = .share group →
          ∀ c ∈ group.toList, c ∉ ['\x00', '/', '+', '#']) := by
  rw [((Compiler.sound_after calls).compile template policy).1, or_self] at compiled
  obtain ⟨matcher, built, rfl⟩ := compile_ok compiled
  have route : (ofMatcher matcher policy).route = stripPrefixes template :=
    Matcher.compile_route built
  have marked := policy.wireTopic_eq matcher.route
  obtain ⟨short, noNull⟩ := Matcher.compile_fits built
  rw [← route] at short noNull
  exact ⟨⟨route, short, noNull, marked⟩, legal_iff marked noNull⟩

/-- A shared topic that the compiler has seen before as a queue. -/
theorem crew_topic_is_legal :
    ∃ topic : Compiled,
      ((Compiler.after [("$queue/hq/+", { queue := true })]).compile "$share/old/hq/+"
        { share := some "night-crew" }).1 = .ok topic ∧
      topic.wireTopic = "$share/night-crew/hq/+" ∧ topic.Legal (.share "night-crew") := by
  obtain ⟨topic, compiled⟩ : ∃ topic,
      ((Compiler.after [("$queue/hq/+", { queue := true })]).compile "$share/old/hq/+"
        { share := some "night-crew" }).1 = .ok topic := ⟨_, rfl⟩
  obtain ⟨⟨route, _, _, marked⟩, legal⟩ := compile_legal_iff (.inr compiled)
  have stripped : topic.route = "hq/+" := by
    rw [route]
    decide
  rw [stripped] at marked legal
  refine ⟨topic, compiled, marked, legal.mpr ⟨by decide, ?_⟩⟩
  rintro group same
  cases same
  have plain : "night-crew".toList.all (fun c => c ∉ ['\x00', '/', '+', '#']) = true := by decide
  exact fun c mem => of_decide_eq_true (List.all_eq_true.mp plain c mem)

/-- A null character, a second level and too many bytes all get through with the group. -/
theorem groups_get_through :
    (∃ topic, compile "door" { share := some "crew\x00" } = .ok topic ∧
      '\x00' ∈ topic.wireTopic.toList) ∧
    (∃ topic, compile "door" { share := some "night/crew" } = .ok topic ∧
      readShare? topic.wireTopic = some ("night", "crew/door")) ∧
    ∃ topic, compile "door" { share := some (String.ofList (List.replicate 65535 'g')) } =
      .ok topic ∧ maxLength < topic.wireTopic.utf8ByteSize := by
  have size (n : Nat) : (String.ofList (List.replicate n 'g')).utf8ByteSize = n := by
    rw [String.utf8ByteSize_ofList]
    induction n with
    | zero => rfl
    | succ n ih =>
        rw [List.replicate_succ, String.utf8Len, ih]
        rfl
  have door (group : String) (named : group.isEmpty = false) :
      ∃ topic, compile "door" { share := some group } = .ok topic ∧
        topic.wireTopic.utf8ByteSize = 7 + group.utf8ByteSize + 5 := by
    have shared : (⟨false, some group⟩ : Policy).delivery = .share group := by
      simp [Policy.delivery, named]
    refine ⟨_, rfl, ?_⟩
    change (Policy.wireTopic _ _).utf8ByteSize = _
    rw [Policy.wireTopic_eq, shared, Delivery.mark]
    simp only [String.utf8ByteSize_append]
    rfl
  obtain ⟨topic, compiled, long⟩ := door (String.ofList (List.replicate 65535 'g')) (by
    rw [String.isEmpty, size]
    rfl)
  refine ⟨⟨_, rfl, by decide⟩, ⟨_, rfl, by decide⟩, topic, compiled, ?_⟩
  rw [long, size, maxLength]
  omega

end Compiled
end MqttRouting.Topic
