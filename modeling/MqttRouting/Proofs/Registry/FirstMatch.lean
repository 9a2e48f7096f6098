import Mathlib.Data.List.Nodup
import MqttRouting.Proofs.Registry
import MqttRouting.Topic.Engine.Sized

/-!
What a registry answers after any number of registrations. The index and the entries say the
same, and a topic belongs to the earliest entry that accepts it. As entries are only appended,
whoever has a topic keeps it, whatever is registered later.
-/

namespace MqttRouting.Registry

variable {ν : Type}

/-! The index beside the entries. -/

/-- The index has every wire topic of the entries once, and no other key. -/
def Keyed (r : Registry ν) : Prop := r.index.keys.Perm r.wireTopics

theorem keyed_empty : Keyed ({} : Registry ν) := .nil

theorem Keyed.register {r : Registry ν} (h : r.Keyed) (s : Subscriber ν) :
    (r.register s).2.Keyed := by
  cases hc : r.contains s.wireTopic with
  | true =>
      rw [register_known hc]
      exact h
  | false =>
      have unknown : r.index.find? s.wireTopic = none := by simpa [contains] using hc
      have inserted := Dictionary.keys_insert r.size unknown
      have appended : (s.wireTopic :: r.wireTopics).Perm (r.wireTopics ++ [s.wireTopic]) :=
        (List.perm_append_singleton _ _).symm
      rw [register_new hc, Keyed, wireTopics, List.map_append]
      exact (inserted.trans (h.cons _)).trans appended

theorem registerAll_keyed {r : Registry ν} (h : r.Keyed) (subscribers : List (Subscriber ν)) :
    (r.registerAll subscribers).2.Keyed := by
  induction subscribers generalizing r with
  | nil => exact h
  | cons s rest ih => exact ih (h.register s)

/-- Where wire topics are distinct, the index gives the one place of each. -/
theorem Indexed.find?_eq_some_iff {r : Registry ν} (h : r.Indexed) (distinct : r.Distinct)
    {wireTopic : String} {place : Nat} :
    r.index.find? wireTopic = some place ↔ r.wireTopics[place]? = some wireTopic := by
  rw [h wireTopic, List.findIdx?_eq_some_iff_getElem, wireTopics, List.getElem?_eq_some_iff]
  simp only [List.length_map, List.getElem_map, beq_iff_eq]
  constructor
  · rintro ⟨within, here, _⟩
    exact ⟨within, here⟩
  · rintro ⟨within, here⟩
    refine ⟨within, here, fun earlier less same => ?_⟩
    have twice : earlier = place := by
      apply distinct.getElem_inj_iff.mp
      · simp [wireTopics, same, here]
      all_goals
        rw [wireTopics, List.length_map]
        omega
    omega

/-- Two ways to look at one table: the entries in their order, and an index of their places. -/
structure Consistent (r : Registry ν) : Prop where
  distinct : r.wireTopics.Nodup
  keys : r.index.keys.Perm r.wireTopics
  place : ∀ wireTopic place,
    r.index.find? wireTopic = some place ↔ r.wireTopics[place]? = some wireTopic
  get : ∀ wireTopic, r.get? wireTopic = r.entries.find? (·.wireTopic == wireTopic)
  contains : ∀ wireTopic, r.contains wireTopic = r.entries.any (·.wireTopic == wireTopic)

theorem ofList_consistent (offered : List (Subscriber ν)) : (ofList offered).Consistent where
  distinct := ofList_distinct offered
  keys := registerAll_keyed keyed_empty offered
  place _ _ := (ofList_indexed offered).find?_eq_some_iff (ofList_distinct offered)
  get := (ofList_indexed offered).get?_eq
  contains wireTopic := by
    rw [Bool.eq_iff_iff, (ofList_indexed offered).contains_iff, wireTopics]
    simp

/-! One more subscriber. -/

/-- A subscriber is taken in behind all others, or changes nothing if its wire topic is known. -/
theorem ofList_register (offered : List (Subscriber ν)) (s : Subscriber ν) :
    let r := ofList offered
    ((r.register s).1 = true ↔ ∀ earlier ∈ offered, earlier.wireTopic ≠ s.wireTopic) ∧
      ((r.register s).1 = true → (r.register s).2.entries = r.entries ++ [s]) ∧
      ((r.register s).1 = false → (r.register s).2 = r) := by
  intro r
  have known : r.contains s.wireTopic = true ↔ ∃ earlier ∈ offered,
      earlier.wireTopic = s.wireTopic := by
    rw [(ofList_indexed offered).contains_iff, mem_wireTopics_ofList]
  cases hc : r.contains s.wireTopic with
  | true =>
      obtain ⟨earlier, mem, same⟩ := known.mp hc
      rw [register_known hc]
      refine ⟨⟨nofun, fun new => absurd same (new earlier mem)⟩, nofun, fun _ => rfl⟩
  | false =>
      rw [register_new hc]
      refine ⟨⟨fun _ earlier mem same => ?_, fun _ => rfl⟩, fun _ => rfl, nofun⟩
      rw [known.mpr ⟨earlier, mem, same⟩] at hc
      cases hc

/-! The first match. -/

/-- An entry accepts a topic, and no earlier entry does. -/
def Earliest (r : Registry ν) (topic : String) (s : Subscriber ν) : Prop :=
  ∃ before after, r.entries = before ++ s :: after ∧ s.isMatch topic = true ∧
    ∀ other ∈ before, other.isMatch topic = false

theorem findMatch?_eq_some_iff {r : Registry ν} {topic : String} {s : Subscriber ν} :
    r.findMatch? topic = some s ↔ r.Earliest topic s := by
  rw [findMatch?, List.find?_eq_some_iff_append]
  constructor
  · rintro ⟨matched, before, after, cut, others⟩
    exact ⟨before, after, cut, matched, fun other mem => by simpa using others other mem⟩
  · rintro ⟨before, after, cut, matched, others⟩
    exact ⟨matched, before, after, cut, fun other mem => by simp [others other mem]⟩

theorem findMatch?_eq_none_iff {r : Registry ν} {topic : String} :
    r.findMatch? topic = none ↔ ∀ s ∈ r.entries, s.isMatch topic = false := by
  simp [findMatch?]

theorem ofList_grows (offered more : List (Subscriber ν)) :
    (ofList offered).entries <+: (ofList (offered ++ more)).entries := by
  rw [← ofList_more, registerAll_entries]
  exact List.prefix_append _ _

/-- What is appended never comes before a first match. -/
theorem Earliest.grows {r r' : Registry ν} {topic : String} {s : Subscriber ν}
    (h : r.Earliest topic s) (appended : r.entries <+: r'.entries) : r'.Earliest topic s := by
  obtain ⟨before, after, cut, matched, others⟩ := h
  obtain ⟨more, same⟩ := appended
  exact ⟨before, after ++ more, by rw [← same, cut]; simp, matched, others⟩

/-- After any registrations the index says what the entries say, a further subscriber is appended
exactly if its wire topic is new, the first match is the earliest entry that accepts the topic, and
it stays so whatever else is registered. -/
theorem ofList_keeps_first_match (offered : List (Subscriber ν)) :
    let r := ofList offered
    r.Consistent ∧
      (∀ s, ((r.register s).1 = true ↔ ∀ earlier ∈ offered, earlier.wireTopic ≠ s.wireTopic) ∧
        ((r.register s).1 = true → (r.register s).2.entries = r.entries ++ [s]) ∧
        ((r.register s).1 = false → (r.register s).2 = r)) ∧
      (∀ topic, (∀ s, r.findMatch? topic = some s ↔ r.Earliest topic s) ∧
        (r.findMatch? topic = none ↔ ∀ s ∈ r.entries, s.isMatch topic = false)) ∧
      ∀ more, r.entries <+: (ofList (offered ++ more)).entries ∧
        ∀ topic s, r.findMatch? topic = some s →
          (ofList (offered ++ more)).findMatch? topic = some s := by
  intro r
  refine ⟨ofList_consistent offered, ofList_register offered,
    fun topic => ⟨fun s => findMatch?_eq_some_iff, findMatch?_eq_none_iff⟩, fun more => ?_⟩
  have appended := ofList_grows offered more
  refine ⟨appended, fun topic s found => ?_⟩
  exact findMatch?_eq_some_iff.mpr ((findMatch?_eq_some_iff.mp found).grows appended)

/-- A plain subscriber to a route with these segments. -/
def listener (route : String) (segments : List Topic.Segment) : Subscriber Unit where
  topic := ⟨route, route, ⟨route, segments, .ofSegments segments⟩⟩
  declaration := { topics := [route], handler := .idle, owner := "lamps" }

def everyLamp : Subscriber Unit := listener "lamp/#" [.literal "lamp".toList, .hash]

def hallLamp : Subscriber Unit :=
  listener "lamp/+/hall" [.literal "lamp".toList, .plus, .literal "hall".toList]

/-- The second subscriber accepts the topic too and comes twice, but the first one keeps it. -/
theorem hall_stays_with_every_lamp :
    Topic.Compiled.compile "lamp/#" {} = .ok everyLamp.topic ∧
      Topic.Compiled.compile "lamp/+/hall" {} = .ok hallLamp.topic ∧
      hallLamp.isMatch "lamp/2/hall" = true ∧
      (ofList [everyLamp, hallLamp, hallLamp]).wireTopics = ["lamp/#", "lamp/+/hall"] ∧
      (ofList [everyLamp]).findMatch? "lamp/2/hall" = some everyLamp ∧
      (ofList [everyLamp, hallLamp, hallLamp]).findMatch? "lamp/2/hall" = some everyLamp := by
  have found : (ofList [everyLamp]).findMatch? "lamp/2/hall" = some everyLamp := rfl
  have stays := ((ofList_keeps_first_match [everyLamp]).2.2.2 [hallLamp, hallLamp]).2
  exact ⟨rfl, rfl, rfl, by decide, found, stays _ _ found⟩

end MqttRouting.Registry
