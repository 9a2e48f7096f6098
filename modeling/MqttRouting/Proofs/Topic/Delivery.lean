import MqttRouting.Topic.Policy

/-!
Prefixes on the wire. A policy comes down to one way of delivery, and that to a mark in front
of the route. Deliveries of different routes can look alike on the wire, but in two ways only:
a route without a mark begins with the mark of the other, or a share group runs on into the
route.
-/

namespace MqttRouting.Topic

/-- Who gets the messages of a subscription: all subscribers, one of a queue, or one of a
share group. -/
inductive Delivery where
  | everyone
  | queue
  | share (group : String)
  deriving DecidableEq

def Policy.delivery (policy : Policy) : Delivery :=
  if policy.queue then .queue
  else
    match policy.share with
    | some group => if group.isEmpty then .everyone else .share group
    | none => .everyone

/-- What stands before the route. -/
def Delivery.mark : Delivery → String
  | .everyone => ""
  | .queue => queuePrefix
  | .share group => sharePrefix ++ group ++ "/"

theorem Policy.wireTopic_eq (policy : Policy) (route : String) :
    policy.wireTopic route = policy.delivery.mark ++ route := by
  obtain ⟨queue, share⟩ := policy
  cases queue with
  | true => rfl
  | false =>
      cases share with
      | none => simp [wireTopic, delivery, Delivery.mark]
      | some group =>
          cases empty : group.isEmpty with
          | true => simp [wireTopic, delivery, Delivery.mark, empty]
          | false => simp [wireTopic, delivery, Delivery.mark, empty]

/-- The first route holds what marks the second, so that both look alike on the wire. -/
inductive Lookalike (route route' : String) : Delivery → Delivery → Prop where
  | plain {d : Delivery} :
      d ≠ .everyone → route = d.mark ++ route' → Lookalike route route' .everyone d
  | group {group more : String} :
      route = more ++ "/" ++ route' →
      Lookalike route route' (.share group) (.share (group ++ "/" ++ more))

namespace Lookalike

variable {route route' : String} {d d' : Delivery}

theorem wireTopic_eq (h : Lookalike route route' d d') : d.mark ++ route = d'.mark ++ route' := by
  cases h with
  | plain _ same =>
      rw [same]
      exact String.empty_append ..
  | group same =>
      rw [same]
      simp [Delivery.mark, String.append_assoc]

theorem longer (h : Lookalike route route' d d') : route'.length < route.length := by
  have slash : "/".length = 1 := rfl
  cases h with
  | plain marked same =>
      rw [same, String.length_append]
      cases d' with
      | everyone => exact absurd rfl marked
      | queue =>
          have long : queuePrefix.length = 7 := rfl
          rw [Delivery.mark, long]
          omega
      | share group =>
          rw [Delivery.mark, String.length_append, slash]
          omega
  | group same =>
      rw [same, String.length_append, String.length_append, slash]
      omega

theorem route_ne (h : Lookalike route route' d d') : route ≠ route' := by
  rintro rfl
  exact Nat.lt_irrefl _ h.longer

end Lookalike

namespace Delivery

variable {route route' : String}

/-- What is left of a group that begins with another one runs on into the route of that one. -/
private theorem group_runs_on {group group' : String} {more : List Char}
    (grown : group'.toList = group.toList ++ more)
    (rest : '/' :: route.toList = more ++ '/' :: route'.toList) :
    (group = group' ∧ route = route') ∨ Lookalike route route' (.share group) (.share group') := by
  cases more with
  | nil =>
      rw [List.append_nil] at grown
      refine .inl ⟨(String.toList_injective grown).symm, String.toList_injective ?_⟩
      exact (List.cons.inj rest).2
  | cons c more =>
      obtain ⟨rfl, behind⟩ := List.cons.inj rest
      change route.toList = more ++ '/' :: route'.toList at behind
      obtain rfl : group' = group ++ "/" ++ String.ofList more := by
        apply String.toList_injective
        simp [grown]
      refine .inr (.group ?_)
      apply String.toList_injective
      simp [behind]

private theorem group_cases {group group' : String}
    (same : (share group).mark ++ route = (share group').mark ++ route') :
    (group = group' ∧ route = route') ∨ Lookalike route route' (.share group) (.share group') ∨
      Lookalike route' route (.share group') (.share group) := by
  have chars := congrArg String.toList same
  simp only [mark, String.toList_append, List.append_assoc, List.append_cancel_left_eq] at chars
  rcases List.append_eq_append_iff.mp chars with ⟨more, grown, rest⟩ | ⟨more, grown, rest⟩
  · rcases group_runs_on grown rest with both | alike
    · exact .inl both
    · exact .inr (.inl alike)
  · rcases group_runs_on grown rest with ⟨rfl, rfl⟩ | alike
    · exact .inl ⟨rfl, rfl⟩
    · exact .inr (.inr alike)

private theorem queue_ne_share (group : String) :
    queue.mark ++ route ≠ (share group).mark ++ route' := by
  intro same
  have chars := congrArg String.toList same
  simp [mark, queuePrefix, sharePrefix] at chars

/-- Two deliveries agree on the wire if they are the same, and otherwise look alike. -/
theorem mark_append_eq_iff (d d' : Delivery) :
    d.mark ++ route = d'.mark ++ route' ↔
      (d = d' ∧ route = route') ∨ Lookalike route route' d d' ∨ Lookalike route' route d' d := by
  constructor
  · intro same
    cases d with
    | everyone =>
        rw [mark, String.empty_append] at same
        cases d' with
        | everyone => exact .inl ⟨rfl, by simpa [mark] using same⟩
        | queue => exact .inr (.inl (.plain nofun same))
        | share group => exact .inr (.inl (.plain nofun same))
    | queue =>
        cases d' with
        | everyone => exact .inr (.inr (.plain nofun (by simpa [mark] using same.symm)))
        | queue => exact .inl ⟨rfl, by simpa [mark] using same⟩
        | share group => exact absurd same (queue_ne_share group)
    | share group =>
        cases d' with
        | everyone => exact .inr (.inr (.plain nofun (by simpa [mark] using same.symm)))
        | queue => exact absurd same.symm (queue_ne_share group)
        | share group' =>
            rcases group_cases same with ⟨rfl, rfl⟩ | alike
            · exact .inl ⟨rfl, rfl⟩
            · exact .inr alike
  · rintro (⟨rfl, rfl⟩ | alike | alike)
    · rfl
    · exact alike.wireTopic_eq
    · exact alike.wireTopic_eq.symm

/-- A route without a mark begins with none, and a share group is a single level. -/
def Unmistakable (route : String) : Delivery → Prop
  | .everyone =>
    ¬ queuePrefix.toList <+: route.toList ∧ ¬ sharePrefix.toList <+: route.toList
  | .queue => True
  | .share group => '/' ∉ group.toList

instance Unmistakable.decidable (route : String) : ∀ d : Delivery, Decidable (Unmistakable route d)
  | .everyone => inferInstanceAs (Decidable
      (¬ queuePrefix.toList <+: route.toList ∧ ¬ sharePrefix.toList <+: route.toList))
  | .queue => inferInstanceAs (Decidable True)
  | .share group => inferInstanceAs (Decidable ('/' ∉ group.toList))

theorem Unmistakable.not_lookalike {d d' : Delivery} (clear : Unmistakable route d)
    (clear' : Unmistakable route' d') : ¬ Lookalike route route' d d' := by
  intro alike
  cases alike with
  | plain marked same =>
      have chars : route.toList = d'.mark.toList ++ route'.toList := by
        rw [same, String.toList_append]
      cases d' with
      | everyone => exact marked rfl
      | queue => exact clear.1 ⟨_, chars.symm⟩
      | share group =>
          refine clear.2 ⟨group.toList ++ '/' :: route'.toList, ?_⟩
          simp [chars, mark]
  | group same => simp [Unmistakable] at clear'

end Delivery
end MqttRouting.Topic
