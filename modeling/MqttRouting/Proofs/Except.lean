/-!
When a chain of steps that may fail comes to a result.
-/

namespace MqttRouting

variable {ε δ α β : Type}

theorem bind_ok_iff {found : Except ε α} {next : α → Except ε β} {result : β} :
    (found >>= next) = .ok result ↔ ∃ x, found = .ok x ∧ next x = .ok result := by
  cases found with
  | error e => exact ⟨nofun, nofun⟩
  | ok x => exact ⟨fun rest => ⟨x, rfl, rest⟩, fun ⟨_, same, rest⟩ => by cases same; exact rest⟩

theorem map_ok_iff {found : Except ε α} {change : α → β} {result : β} :
    found.map change = .ok result ↔ ∃ x, found = .ok x ∧ change x = result := by
  cases found with
  | error e => exact ⟨nofun, nofun⟩
  | ok x => simp [Except.map]

theorem mapError_ok_iff {found : Except ε α} {change : ε → δ} {result : α} :
    found.mapError change = .ok result ↔ found = .ok result := by
  cases found with
  | error e => exact ⟨nofun, nofun⟩
  | ok x => exact ⟨fun same => congrArg _ (Except.ok.inj same),
      fun same => congrArg _ (Except.ok.inj same)⟩

theorem toOption_eq_some_iff {found : Except ε α} {x : α} :
    found.toOption = some x ↔ found = .ok x := by
  cases found <;> simp [Except.toOption]

/-- Where some step fails, all in front of the first such step succeed, and its error is the
result. -/
theorem mapM_first_error {f : α → Except ε β} {list : List α}
    (fails : ∃ a ∈ list, ∃ e, f a = .error e) :
    ∃ front a back e, list = front ++ a :: back ∧ (∀ b ∈ front, ∃ c, f b = .ok c) ∧
      f a = .error e ∧ list.mapM f = .error e := by
  induction list with
  | nil =>
      obtain ⟨a, mem, _⟩ := fails
      cases mem
  | cons a rest ih =>
      cases first : f a with
      | error e =>
          refine ⟨[], a, rest, e, rfl, nofun, first, ?_⟩
          rw [List.mapM_cons, first]
          rfl
      | ok c =>
          obtain ⟨b, mem, e, failed⟩ := fails
          rcases List.mem_cons.mp mem with rfl | mem
          · cases first.symm.trans failed
          · obtain ⟨front, a', back, e', rfl, fine, failed, result⟩ := ih ⟨b, mem, e, failed⟩
            refine ⟨a :: front, a', back, e', rfl, ?_, failed, ?_⟩
            · exact List.forall_mem_cons.mpr ⟨⟨c, first⟩, fine⟩
            · rw [List.mapM_cons, first, result]
              rfl

end MqttRouting
