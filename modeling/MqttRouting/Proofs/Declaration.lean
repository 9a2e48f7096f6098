import MqttRouting.Declaration.Builder

/-!
What a builder lets pass. It is complete or has a first fault, and which of the two decides what
it builds. The positions of a declaration are distinct and stay below the limit, and the number of
argument slots is just enough for all of them.
-/

namespace MqttRouting

variable {ν : Type}

namespace Builder

/-- No position occurs again if all are different from each other and from those before. -/
theorem firstRepeated_eq_none_iff {seen positions : List Nat} :
    firstRepeated seen positions = none ↔ positions.Nodup ∧ ∀ n ∈ positions, n ∉ seen := by
  induction positions generalizing seen with
  | nil => simp [firstRepeated]
  | cons n rest ih =>
      rw [firstRepeated]
      split
      · rename_i known
        exact ⟨nofun, fun fresh => absurd known (fresh.2 n List.mem_cons_self)⟩
      · rename_i unseen
        rw [ih, List.nodup_cons, List.forall_mem_cons]
        grind

/-- The position that is found is the first that stands among those before it. -/
theorem firstRepeated_eq_some_iff {seen positions : List Nat} {n : Nat} :
    firstRepeated seen positions = some n ↔
      ∃ front back, positions = front ++ n :: back ∧ (n ∈ seen ∨ n ∈ front) ∧
        front.Nodup ∧ ∀ m ∈ front, m ∉ seen := by
  induction positions generalizing seen with
  | nil => simp [firstRepeated]
  | cons first rest ih =>
      rw [firstRepeated]
      split
      · rename_i known
        constructor
        · rintro same
          cases same
          exact ⟨[], rest, rfl, .inl known, List.nodup_nil, nofun⟩
        · rintro ⟨front, back, cut, _, _, fresh⟩
          cases front with
          | nil => rw [(List.cons.inj cut).1]
          | cons m front =>
              obtain ⟨rfl, _⟩ := List.cons.inj cut
              exact absurd known (fresh first List.mem_cons_self)
      · rename_i unseen
        rw [ih]
        constructor
        · rintro ⟨front, back, rfl, again, distinct, fresh⟩
          refine ⟨first :: front, back, rfl, ?_, ?_, ?_⟩ <;> grind
        · rintro ⟨front, back, cut, again, distinct, fresh⟩
          cases front with
          | nil =>
              obtain ⟨rfl, _⟩ := List.cons.inj cut
              exact absurd again (by simpa using unseen)
          | cons m front =>
              obtain ⟨rfl, rfl⟩ := List.cons.inj cut
              refine ⟨front, back, rfl, ?_, ?_, ?_⟩ <;> grind

def positions (b : Builder ν) : List Nat := b.parameters.map Parameter.position

/-- Everything that a declaration has to have, with this handler. -/
structure Complete (b : Builder ν) (handler : Handler ν) : Prop where
  topics : b.topics ≠ []
  low : ∀ n ∈ b.positions, n ≤ maxPosition
  distinct : b.positions.Nodup
  handled : b.handler = some handler

/-- The first fault of a builder: each one only where those named before it are not there. -/
inductive Fault (b : Builder ν) : DeclarationError → Prop where
  | noTopics : b.topics = [] → Fault b (.noTopics b.owner)
  | tooHigh {front back : List Nat} {n : Nat} :
      b.topics ≠ [] → b.positions = front ++ n :: back → maxPosition < n →
      (∀ m ∈ front, m ≤ maxPosition) → Fault b (.positionOutOfRange b.owner n)
  | twice {front back : List Nat} {n : Nat} :
      b.topics ≠ [] → (∀ m ∈ b.positions, m ≤ maxPosition) →
      b.positions = front ++ n :: back → n ∈ front → front.Nodup →
      Fault b (.duplicatePosition b.owner n)
  | noHandler :
      b.topics ≠ [] → (∀ m ∈ b.positions, m ≤ maxPosition) → b.positions.Nodup →
      b.handler = none → Fault b (.missingHandler b.owner)

theorem find?_tooHigh_eq_none_iff {positions : List Nat} :
    positions.find? (maxPosition < ·) = none ↔ ∀ n ∈ positions, n ≤ maxPosition := by
  simp

theorem find?_tooHigh_eq_some_iff {positions : List Nat} {n : Nat} :
    positions.find? (maxPosition < ·) = some n ↔ ∃ front back, positions = front ++ n :: back ∧
      maxPosition < n ∧ ∀ m ∈ front, m ≤ maxPosition := by
  rw [List.find?_eq_some_iff_append]
  simp only [decide_eq_true_eq, Bool.not_eq_true', decide_eq_false_iff_not, Nat.not_lt]
  grind

/-- A builder is complete or has a fault. -/
theorem complete_or_fault (b : Builder ν) : (∃ handler, b.Complete handler) ∨ ∃ e, b.Fault e := by
  by_cases declares : b.topics = []
  · exact .inr ⟨_, .noTopics declares⟩
  cases high : b.positions.find? (maxPosition < ·) with
  | some n =>
      obtain ⟨front, back, cut, tooHigh, low⟩ := find?_tooHigh_eq_some_iff.mp high
      exact .inr ⟨_, .tooHigh declares cut tooHigh low⟩
  | none =>
      have low := find?_tooHigh_eq_none_iff.mp high
      cases again : firstRepeated [] b.positions with
      | some n =>
          obtain ⟨front, back, cut, known, distinct, _⟩ := firstRepeated_eq_some_iff.mp again
          have mem : n ∈ front := by simpa using known
          exact .inr ⟨_, .twice declares low cut mem distinct⟩
      | none =>
          have distinct := (firstRepeated_eq_none_iff.mp again).1
          cases handled : b.handler with
          | none => exact .inr ⟨_, .noHandler declares low distinct handled⟩
          | some handler => exact .inl ⟨handler, declares, low, distinct, handled⟩

theorem find?_tooHigh_of_low {b : Builder ν} (low : ∀ n ∈ b.positions, n ≤ maxPosition) :
    (b.parameters.map Parameter.position).find? (maxPosition < ·) = none :=
  find?_tooHigh_eq_none_iff.mpr low

theorem firstRepeated_of_nodup {b : Builder ν} (distinct : b.positions.Nodup) :
    firstRepeated [] (b.parameters.map Parameter.position) = none :=
  firstRepeated_eq_none_iff.mpr ⟨distinct, fun _ _ => List.not_mem_nil⟩

theorem Complete.build_eq {b : Builder ν} {handler : Handler ν} (h : b.Complete handler) :
    b.build = .ok { b with handler } := by
  have low := find?_tooHigh_of_low h.low
  have distinct := firstRepeated_of_nodup h.distinct
  simp [build, h.topics, low, distinct, h.handled]

theorem Fault.build_eq {b : Builder ν} {e : DeclarationError} (h : b.Fault e) :
    b.build = .error e := by
  cases h with
  | noTopics none => simp [build, none]
  | tooHigh declares cut high low =>
      have found := find?_tooHigh_eq_some_iff.mpr ⟨_, _, cut, high, low⟩
      rw [positions] at found
      simp [build, declares, found]
  | @twice front back n declares low cut mem distinct =>
      have found : firstRepeated [] b.positions = some n :=
        firstRepeated_eq_some_iff.mpr ⟨_, _, cut, .inr mem, distinct, fun _ _ => List.not_mem_nil⟩
      rw [positions] at found
      simp [build, declares, find?_tooHigh_of_low low, found]
  | noHandler declares low distinct unhandled =>
      simp [build, declares, find?_tooHigh_of_low low, firstRepeated_of_nodup distinct, unhandled]

theorem build_eq_ok_iff {b : Builder ν} {declaration : Declaration ν} :
    b.build = .ok declaration ↔
      ∃ handler, b.Complete handler ∧ declaration = { b with handler } := by
  constructor
  · intro built
    obtain ⟨handler, complete⟩ | ⟨e, fault⟩ := b.complete_or_fault
    · exact ⟨handler, complete, Except.ok.inj (built.symm.trans complete.build_eq)⟩
    · cases built.symm.trans fault.build_eq
  · rintro ⟨handler, complete, rfl⟩
    exact complete.build_eq

theorem build_eq_error_iff {b : Builder ν} {e : DeclarationError} :
    b.build = .error e ↔ b.Fault e := by
  constructor
  · intro failed
    obtain ⟨handler, complete⟩ | ⟨e', fault⟩ := b.complete_or_fault
    · cases failed.symm.trans complete.build_eq
    · cases failed.symm.trans fault.build_eq
      exact fault
  · exact Fault.build_eq

theorem build_ok {b : Builder ν} {declaration : Declaration ν} (h : b.build = .ok declaration) :
    (declaration.parameters.map Parameter.position).Nodup ∧
      ∀ p ∈ declaration.parameters, p.position ≤ maxPosition := by
  obtain ⟨handler, complete, rfl⟩ := build_eq_ok_iff.mp h
  exact ⟨complete.distinct, fun p mem => complete.low _ (List.mem_map_of_mem mem)⟩

end Builder

namespace Declaration

/-- A declaration that a builder has made. -/
def Built (declaration : Declaration ν) : Prop := ∃ b : Builder ν, b.build = .ok declaration

theorem Built.distinct {declaration : Declaration ν} (h : declaration.Built) :
    (declaration.parameters.map Parameter.position).Nodup := by
  obtain ⟨b, built⟩ := h
  exact (Builder.build_ok built).1

/-- There are slots up to the highest position. -/
theorem arity_eq (declaration : Declaration ν) :
    declaration.arity =
      ((declaration.parameters.map fun p => p.position + 1).max?).getD 0 := by
  have folded : declaration.arity =
      (declaration.parameters.map fun p => p.position + 1).foldl max 0 := by
    rw [List.foldl_map]
    rfl
  rw [folded]
  cases declaration.parameters.map fun p => p.position + 1 with
  | nil => rfl
  | cons first rest =>
      rw [List.max?_cons', List.foldl_cons, Nat.zero_max]
      rfl

theorem position_lt_arity {declaration : Declaration ν} {p : Parameter}
    (mem : p ∈ declaration.parameters) : p.position < declaration.arity := by
  rw [arity_eq]
  have mem' : p.position + 1 ∈ declaration.parameters.map fun p => p.position + 1 :=
    List.mem_map_of_mem mem
  cases highest : (declaration.parameters.map fun p => p.position + 1).max? with
  | none =>
      rw [List.max?_eq_none_iff.mp highest] at mem'
      cases mem'
  | some top => exact (List.max?_eq_some_iff.mp highest).2 _ mem'

theorem arity_le {declaration : Declaration ν} {slots : Nat}
    (low : ∀ p ∈ declaration.parameters, p.position < slots) : declaration.arity ≤ slots := by
  rw [arity_eq]
  cases highest : (declaration.parameters.map fun p => p.position + 1).max? with
  | none => exact Nat.zero_le _
  | some top =>
      obtain ⟨p, mem, rfl⟩ := List.mem_map.mp (List.max?_eq_some_iff.mp highest).1
      exact low p mem

/-- The same declaration with its parameters in another order. -/
def reorder (declaration : Declaration ν) (parameters : List Parameter) : Declaration ν :=
  { declaration with parameters }

theorem arity_reorder {declaration : Declaration ν} {parameters : List Parameter}
    (h : parameters.Perm declaration.parameters) :
    (declaration.reorder parameters).arity = declaration.arity := by
  apply h.foldl_eq'
  intro p _ q _ highest
  omega

end Declaration
end MqttRouting
