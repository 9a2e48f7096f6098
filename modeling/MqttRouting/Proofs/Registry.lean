import MqttRouting.Subscription.Registry

/-!
The registry seen as a list. Registering subscribers one after the other keeps the first
of each wire topic, in order of arrival, and the index names the place of every entry. A
registry is therefore known from the subscribers that were offered to it, however often
they were.
-/

namespace MqttRouting

variable {ν : Type}

/-- Drops every subscriber whose wire topic occurred earlier. -/
def Subscriber.distinct (subscribers : List (Subscriber ν)) : List (Subscriber ν) :=
  subscribers.eraseDupsBy fun later earlier => later.wireTopic == earlier.wireTopic

namespace Registry

/-- The index gives the place of the entry with a wire topic, if there is one. -/
def Indexed (r : Registry ν) : Prop :=
  ∀ wireTopic, r.index.find? wireTopic = r.entries.findIdx? (·.wireTopic == wireTopic)

/-- A wire topic has one entry at most. -/
def Distinct (r : Registry ν) : Prop := r.wireTopics.Nodup

theorem indexed_empty : Indexed ({} : Registry ν) := fun _ => rfl

theorem distinct_empty : Distinct ({} : Registry ν) := List.nodup_nil

namespace Indexed

variable {r : Registry ν}

theorem contains_iff (h : r.Indexed) (wireTopic : String) :
    r.contains wireTopic = true ↔ wireTopic ∈ r.wireTopics := by
  simp [contains, h wireTopic, wireTopics]

theorem get?_eq (h : r.Indexed) (wireTopic : String) :
    r.get? wireTopic = r.entries.find? (·.wireTopic == wireTopic) := by
  rw [get?, h wireTopic]
  induction r.entries with
  | nil => rfl
  | cons s rest ih =>
      rw [List.findIdx?_cons, List.find?_cons]
      cases hs : s.wireTopic == wireTopic with
      | true => rfl
      | false => simpa [Option.bind_map, Function.comp_def] using ih

theorem register (h : r.Indexed) (s : Subscriber ν) : (r.register s).2.Indexed := by
  rw [Registry.register]
  cases hc : r.contains s.wireTopic with
  | true => exact h
  | false =>
      intro wireTopic
      have unknown : r.entries.findIdx? (·.wireTopic == s.wireTopic) = none := by
        rw [← h s.wireTopic]
        simpa [contains] using hc
      simp only [Bool.false_eq_true, if_false, Dictionary.find?_insert, List.findIdx?_append]
      by_cases hw : wireTopic = s.wireTopic
      · subst hw
        simp [unknown, size, List.findIdx?_cons]
      · simp [hw, h wireTopic, List.findIdx?_cons, Ne.symm hw]

end Indexed

theorem register_known {r : Registry ν} {s : Subscriber ν} (h : r.contains s.wireTopic = true) :
    r.register s = (false, r) := by
  rw [register, if_pos h]

theorem register_new {r : Registry ν} {s : Subscriber ν} (h : r.contains s.wireTopic = false) :
    r.register s = (true, ⟨r.entries ++ [s], r.index.insert s.wireTopic r.size⟩) := by
  rw [register, if_neg (by simp [h])]

theorem Distinct.register {r : Registry ν} (h : r.Distinct) (indexed : r.Indexed)
    (s : Subscriber ν) : (r.register s).2.Distinct := by
  cases hc : r.contains s.wireTopic with
  | true =>
      rw [register_known hc]
      exact h
  | false =>
      rw [register_new hc]
      have unknown : s.wireTopic ∉ r.wireTopics := by
        rw [← indexed.contains_iff, hc]
        exact Bool.false_ne_true
      unfold Distinct wireTopics at h ⊢
      rw [List.map_append, List.nodup_append]
      refine ⟨h, by simp, ?_⟩
      intro wireTopic mem other last same
      rw [List.map_singleton, List.mem_singleton] at last
      exact unknown (last ▸ same ▸ mem)

private theorem find?_self {entries : List (Subscriber ν)}
    (h : (entries.map Subscriber.wireTopic).Nodup) {s : Subscriber ν} (mem : s ∈ entries) :
    entries.find? (·.wireTopic == s.wireTopic) = some s := by
  induction entries with
  | nil => cases mem
  | cons first rest ih =>
      rw [List.map_cons, List.nodup_cons] at h
      rcases List.mem_cons.mp mem with rfl | mem
      · simp
      · have other : first.wireTopic ≠ s.wireTopic := by
          intro same
          exact h.1 (same ▸ List.mem_map_of_mem mem)
        rw [List.find?_cons_of_neg (by simpa using other)]
        exact ih h.2 mem

/-- What is registered is found again under its wire topic. -/
theorem Distinct.get?_self {r : Registry ν} (h : r.Distinct) (indexed : r.Indexed)
    {s : Subscriber ν} (mem : s ∈ r.entries) : r.get? s.wireTopic = some s := by
  rw [indexed.get?_eq]
  exact find?_self h mem

/-! Registering many. -/

theorem registerAll_indexed {r : Registry ν} (h : r.Indexed) (subscribers : List (Subscriber ν)) :
    (r.registerAll subscribers).2.Indexed := by
  induction subscribers generalizing r with
  | nil => exact h
  | cons s rest ih => exact ih (h.register s)

theorem registerAll_distinct {r : Registry ν} (h : r.Distinct) (indexed : r.Indexed)
    (subscribers : List (Subscriber ν)) : (r.registerAll subscribers).2.Distinct := by
  induction subscribers generalizing r with
  | nil => exact h
  | cons s rest ih => exact ih (h.register indexed s) (indexed.register s)

/-- Entries are only ever appended, and those that are new come out. -/
theorem registerAll_entries (r : Registry ν) (subscribers : List (Subscriber ν)) :
    (r.registerAll subscribers).2.entries = r.entries ++ (r.registerAll subscribers).1 := by
  induction subscribers generalizing r with
  | nil => simp [registerAll]
  | cons s rest ih =>
      rw [registerAll]
      cases hc : r.contains s.wireTopic with
      | true => simp [register_known hc, ih]
      | false => simp [register_new hc, ih]

theorem registerAll_append (r : Registry ν) (front back : List (Subscriber ν)) :
    r.registerAll (front ++ back) =
      ((r.registerAll front).1 ++ ((r.registerAll front).2.registerAll back).1,
        ((r.registerAll front).2.registerAll back).2) := by
  induction front generalizing r with
  | nil => rfl
  | cons s rest ih =>
      simp only [List.cons_append, registerAll, ih]
      split <;> rfl

theorem registerAll_known {r : Registry ν} {subscribers : List (Subscriber ν)}
    (h : ∀ s ∈ subscribers, r.contains s.wireTopic = true) :
    r.registerAll subscribers = ([], r) := by
  induction subscribers with
  | nil => rfl
  | cons s rest ih =>
      obtain ⟨known, others⟩ := List.forall_mem_cons.mp h
      simp [registerAll, register_known known, ih others]

theorem mem_of_registerAll {r : Registry ν} {subscribers : List (Subscriber ν)}
    {s : Subscriber ν} (mem : s ∈ (r.registerAll subscribers).1) : s ∈ subscribers := by
  induction subscribers generalizing r with
  | nil => exact mem
  | cons first rest ih =>
      simp only [registerAll] at mem
      split at mem
      · rcases List.mem_cons.mp mem with rfl | mem
        · exact List.mem_cons_self ..
        · exact List.mem_cons_of_mem first (ih mem)
      · exact List.mem_cons_of_mem first (ih mem)

/-- What comes out of a registration: the unknown subscribers, the first of each wire topic. -/
theorem registerAll_fresh {r : Registry ν} (h : r.Indexed) (subscribers : List (Subscriber ν)) :
    (r.registerAll subscribers).1 =
      Subscriber.distinct (subscribers.filter (·.wireTopic ∉ r.wireTopics)) := by
  induction subscribers generalizing r with
  | nil => rfl
  | cons s rest ih =>
      rw [registerAll]
      cases hc : r.contains s.wireTopic with
      | true =>
          have known := (h.contains_iff s.wireTopic).mp hc
          simp [register_known hc, known, ih h]
      | false =>
          have unknown : s.wireTopic ∉ r.wireTopics := by
            rw [← h.contains_iff, hc]
            exact Bool.false_ne_true
          have registered := h.register s
          rw [register_new hc] at registered ⊢
          -- the later subscribers have to miss the wire topic just taken as well
          have kept : rest.filter (·.wireTopic ∉
                (⟨r.entries ++ [s], r.index.insert s.wireTopic r.size⟩ : Registry ν).wireTopics) =
              (rest.filter (·.wireTopic ∉ r.wireTopics)).filter
                fun later => (later.wireTopic == s.wireTopic) = false := by
            rw [List.filter_filter]
            congr 1
            funext later
            simp [wireTopics, and_comm]
          change s :: (registerAll _ rest).1 = _
          rw [ih registered, kept, List.filter_cons_of_pos (by simpa using unknown),
            Subscriber.distinct, Subscriber.distinct, List.eraseDupsBy_cons]

theorem mem_wireTopics_registerAll {r : Registry ν} (h : r.Indexed)
    (subscribers : List (Subscriber ν)) (wireTopic : String) :
    wireTopic ∈ (r.registerAll subscribers).2.wireTopics ↔
      wireTopic ∈ r.wireTopics ∨ ∃ s ∈ subscribers, s.wireTopic = wireTopic := by
  induction subscribers generalizing r with
  | nil => simp [registerAll]
  | cons s rest ih =>
      rw [show (r.registerAll (s :: rest)).2 = ((r.register s).2.registerAll rest).2 from rfl,
        ih (h.register s)]
      cases hc : r.contains s.wireTopic with
      | true =>
          have known := (h.contains_iff s.wireTopic).mp hc
          rw [register_known hc]
          constructor
          · rintro (found | ⟨other, mem, eq⟩)
            · exact Or.inl found
            · exact Or.inr ⟨other, List.mem_cons_of_mem s mem, eq⟩
          · rintro (found | ⟨other, mem, eq⟩)
            · exact Or.inl found
            · rcases List.mem_cons.mp mem with rfl | mem
              · exact Or.inl (eq ▸ known)
              · exact Or.inr ⟨other, mem, eq⟩
      | false =>
          rw [register_new hc]
          simp [wireTopics, or_assoc, eq_comm]

/-! Registries made from nothing. -/

/-- The registry of subscribers offered one after the other. -/
def ofList (subscribers : List (Subscriber ν)) : Registry ν :=
  (({} : Registry ν).registerAll subscribers).2

theorem ofList_indexed (subscribers : List (Subscriber ν)) : (ofList subscribers).Indexed :=
  registerAll_indexed indexed_empty subscribers

theorem ofList_distinct (subscribers : List (Subscriber ν)) : (ofList subscribers).Distinct :=
  registerAll_distinct distinct_empty indexed_empty subscribers

theorem ofList_entries (subscribers : List (Subscriber ν)) :
    (ofList subscribers).entries = Subscriber.distinct subscribers := by
  rw [ofList, registerAll_entries, registerAll_fresh indexed_empty,
    List.filter_eq_self.mpr fun s _ => by simp [wireTopics]]
  rfl

theorem mem_wireTopics_ofList (subscribers : List (Subscriber ν)) (wireTopic : String) :
    wireTopic ∈ (ofList subscribers).wireTopics ↔ ∃ s ∈ subscribers, s.wireTopic = wireTopic := by
  rw [ofList, mem_wireTopics_registerAll indexed_empty]
  simp [wireTopics]

/-- Offering all of them again changes nothing. -/
theorem ofList_again (subscribers : List (Subscriber ν)) :
    (ofList subscribers).registerAll subscribers = ([], ofList subscribers) := by
  apply registerAll_known
  intro s mem
  rw [(ofList_indexed subscribers).contains_iff, mem_wireTopics_ofList]
  exact ⟨s, mem, rfl⟩

theorem ofList_more (subscribers more : List (Subscriber ν)) :
    ((ofList subscribers).registerAll more).2 = ofList (subscribers ++ more) := by
  rw [ofList, ofList, registerAll_append]

end Registry

theorem Subscriber.mem_distinct {subscribers : List (Subscriber ν)} {s : Subscriber ν}
    (mem : s ∈ distinct subscribers) : s ∈ subscribers := by
  rw [← Registry.ofList_entries, Registry.ofList, Registry.registerAll_entries] at mem
  exact Registry.mem_of_registerAll mem

theorem Subscriber.distinct_append (front back : List (Subscriber ν)) :
    distinct (front ++ back) = distinct front ++ distinct (back.filter fun s =>
      s.wireTopic ∉ (distinct front).map Subscriber.wireTopic) := by
  have fresh := Registry.registerAll_fresh (Registry.ofList_indexed front) back
  rw [Registry.wireTopics, Registry.ofList_entries] at fresh
  rw [← Registry.ofList_entries, ← Registry.ofList_more, Registry.registerAll_entries, fresh,
    Registry.ofList_entries]

end MqttRouting
