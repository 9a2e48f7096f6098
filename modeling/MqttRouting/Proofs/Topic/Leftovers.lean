import MqttRouting.Proofs.Topic.Decomposition

/-!
What is left of placeholders. A placeholder that has a value can still be found in the result:
where another pair of opening braces stands in front of it and is not closed before, it is the end
of a longer placeholder that has no value. Nothing else is left behind, as long as names and
values have no braces of their own.
-/

namespace MqttRouting.Topic

/-- A text without braces. -/
def Braceless (text : List Char) : Prop := '{' ∉ text ∧ '}' ∉ text

instance : DecidablePred Braceless := fun text =>
  inferInstanceAs (Decidable ('{' ∉ text ∧ '}' ∉ text))

/-! Where a pair can stand. -/

/-- No pair begins in front of the first one, whatever stands behind. -/
theorem FirstPair.skip {c : Char} {before after more front back : List Char}
    (first : FirstPair c before after) (whole : before ++ more = front ++ c :: c :: back) :
    ∃ front', front = before ++ front' ∧ more = front' ++ c :: c :: back := by
  obtain ⟨front', eq, rest⟩ | ⟨cut, eq, rest⟩ := List.append_eq_append_iff.mp whole
  · exact ⟨front', eq, rest⟩
  · match cut with
    | [] => exact ⟨[], by simp [eq], rest.symm⟩
    | [a] =>
      cases rest
      have earlier := first front (c :: after) (by simp [eq])
      simp only [eq, List.length_append, List.length_singleton] at earlier
      omega
    | a :: b :: cut =>
      cases rest
      have earlier := first front (cut ++ c :: c :: after) (by simp [eq])
      simp only [eq, List.length_append, List.length_cons] at earlier
      omega

theorem FirstPair.of_absent {c : Char} {before : List Char} (absent : c ∉ before)
    (after : List Char) : FirstPair c before after := by
  intro front back whole
  obtain ⟨front', rfl, _⟩ | ⟨cut, eq, rest⟩ := List.append_eq_append_iff.mp whole
  · simp
  · cases cut with
    | nil => simp [eq]
    | cons a cut =>
        obtain rfl := (List.cons.inj rest).1
        exact absurd (by simp [eq]) absent

/-- Whether a pair is the first one does not depend on what stands behind it. -/
theorem FirstPair.behind {c : Char} {before after : List Char} (first : FirstPair c before after)
    (after' : List Char) : FirstPair c before after' := by
  intro front back whole
  obtain ⟨front', rfl, _⟩ := first.skip whole
  simp

/-! Placeholders inside a text. -/

theorem Part.chars_placeholder (name : List Char) :
    (Part.placeholder name).chars = ('{' :: '{' :: name) ++ ['}', '}'] := rfl

/-- A placeholder that begins inside another one is its end. -/
theorem ends_with_of_inside {name key rest more front back : List Char}
    (closed : FirstPair '}' name rest) (braceless : Braceless key)
    (whole : (Part.placeholder name).chars ++ more =
      front ++ ((Part.placeholder key).chars ++ back)) :
    (Part.placeholder name).chars = front ++ (Part.placeholder key).chars ∨
      ∃ front', front = (Part.placeholder name).chars ++ front' ∧
        more = front' ++ ((Part.placeholder key).chars ++ back) := by
  have opened : FirstPair '}' ('{' :: '{' :: name) more :=
    ((closed.behind more).cons (by simp)).cons (by simp)
  have cut : ('{' :: '{' :: name) ++ '}' :: '}' :: more =
      (front ++ '{' :: '{' :: key) ++ '}' :: '}' :: back := by
    simpa [Part.chars] using whole
  -- the inner placeholder closes where the outer one does, or behind it
  obtain ⟨between, same, rest⟩ := opened.skip cut
  obtain ⟨inner, eq, eq'⟩ | ⟨front', eq, eq'⟩ := List.append_eq_append_iff.mp same
  · cases between with
    | nil =>
        rw [List.append_nil] at same
        exact .inl (by rw [Part.chars_placeholder, ← same]; simp [Part.chars])
    | cons c between =>
        obtain rfl := (List.cons.inj rest).1
        have brace : '}' ∈ '{' :: '{' :: key := by simp [eq']
        exact absurd (by simpa using brace) braceless.2
  · rw [eq'] at rest
    cases front' with
    | nil => cases rest
    | cons c front' =>
        cases front' with
        | nil => cases rest
        | cons d front' =>
            cases rest
            exact .inr ⟨front', by simp [eq, Part.chars], by simp [Part.chars]⟩

/-- Another placeholder that ends with this one has a brace in its name. -/
theorem brace_mem_of_longer {name key : List Char} (other : name ≠ key)
    (longer : (Part.placeholder key).chars <:+ (Part.placeholder name).chars) : '{' ∈ name := by
  obtain ⟨front, whole⟩ := longer
  have opened : front ++ '{' :: '{' :: key = '{' :: '{' :: name := by
    rw [Part.chars_placeholder, Part.chars_placeholder, ← List.append_assoc] at whole
    exact List.append_cancel_right whole
  match front with
  | [] =>
    cases opened
    exact absurd rfl other
  | [_] =>
    cases opened
    exact List.mem_cons_self
  | _ :: _ :: front =>
    cases opened
    simp

/-- Where each placeholder is either kept or filled without opening braces, only those are found
behind this that end a longer one. -/
theorem longer_of_left {filler : List Char → List Char} {key : List Char}
    (braceless : Braceless key)
    (fills : ∀ name, '{' ∉ filler name ∨
      (name ≠ key ∧ filler name = (Part.placeholder name).chars))
    {text : List Char} {ps : List Part} (h : Decomposes text ps)
    (left : (Part.placeholder key).chars <:+: ps.flatMap (Part.put filler)) :
    ∃ name, .placeholder name ∈ ps ∧ name ≠ key ∧
      (Part.placeholder key).chars <:+ (Part.placeholder name).chars := by
  have chars (back : List Char) : (Part.placeholder key).chars ++ back =
      '{' :: '{' :: (key ++ '}' :: '}' :: back) := by
    simp [Part.chars]
  induction h with
  | tail unclosed =>
      obtain ⟨front, back, whole⟩ := left
      rw [List.append_assoc, chars, List.flatMap_singleton] at whole
      exact absurd ⟨key, back, by simp⟩ (unclosed front _ whole.symm)
  | @next before name rest more opened closed _ ih =>
      obtain ⟨front, back, whole⟩ := left
      rw [List.append_assoc, List.flatMap_cons, List.flatMap_cons, Part.put, Part.put] at whole
      have behind {front : List Char}
          (whole : more.flatMap (Part.put filler) =
            front ++ ((Part.placeholder key).chars ++ back)) :
          ∃ name', .placeholder name' ∈ Part.plain before :: .placeholder name :: more ∧
            name' ≠ key ∧ (Part.placeholder key).chars <:+ (Part.placeholder name').chars := by
        obtain ⟨name', mem, longer⟩ := ih ⟨front, back, by rw [whole, List.append_assoc]⟩
        exact ⟨name', List.mem_cons_of_mem _ (List.mem_cons_of_mem _ mem), longer⟩
      rw [chars] at whole
      obtain ⟨front', _, filled⟩ := opened.skip whole.symm
      obtain absent | ⟨other, kept⟩ := fills name
      · obtain ⟨_, _, rest⟩ := (FirstPair.of_absent absent []).skip filled
        rw [← chars] at rest
        exact behind rest
      · rw [kept, ← chars] at filled
        obtain longer | ⟨_, _, rest⟩ := ends_with_of_inside closed braceless filled
        · exact ⟨name, by simp, other, front', longer.symm⟩
        · exact behind rest

/-! Substitution. -/

/-- Neither the names nor the values have braces. -/
def Bare (bindings : Bindings) : Prop :=
  ∀ entry ∈ bindings, Braceless entry.1.toList ∧ Braceless entry.2.toList

theorem Bare.fills {bindings : Bindings} (bare : Bare bindings) {key : String}
    (known : key ∈ bindings.keys) (name : List Char) :
    '{' ∉ valueOf bindings name ∨
      (name ≠ key.toList ∧ valueOf bindings name = (Part.placeholder name).chars) := by
  rw [valueOf]
  cases found : bindings.find? (String.ofList name) with
  | some value => exact .inl (bare _ (Dictionary.mem_of_find? found)).2.1
  | none =>
      refine .inr ⟨?_, rfl⟩
      rintro rfl
      rw [String.ofList_toList] at found
      exact Dictionary.find?_eq_none_iff.mp found known

theorem Bare.kept {bindings : Bindings} (bare : Bare bindings) {name : List Char}
    (brace : '{' ∈ name) : valueOf bindings name = (Part.placeholder name).chars := by
  rw [valueOf]
  cases found : bindings.find? (String.ofList name) with
  | none => rfl
  | some value =>
      have absent := (bare _ (Dictionary.mem_of_find? found)).1.1
      rw [String.toList_ofList] at absent
      exact absurd brace absent

/-- A placeholder with a value is left behind exactly where a longer placeholder of the template
ends with it. -/
theorem left_behind_iff {bindings : Bindings} (bare : Bare bindings) {key : String}
    (known : key ∈ bindings.keys) (template : String) :
    (Part.placeholder key.toList).chars <:+: (substitute template bindings).toList ↔
      ∃ name, .placeholder name ∈ parts template.toList ∧ name ≠ key.toList ∧
        (Part.placeholder key.toList).chars <:+ (Part.placeholder name).chars := by
  rw [substitute_eq]
  constructor
  · intro left
    obtain ⟨entry, mem, rfl⟩ := List.exists_of_mem_map known
    exact longer_of_left (bare entry mem).1 (bare.fills known) (decomposes_iff.mpr rfl) left
  · rintro ⟨name, mem, other, longer⟩
    have kept := bare.kept (brace_mem_of_longer other longer)
    obtain ⟨front, back, cut⟩ := List.append_of_mem mem
    rw [cut, List.flatMap_append, List.flatMap_cons, Part.put, kept, ← List.append_assoc]
    exact longer.isInfix.trans (List.infix_append _ _ _)

def fifth : Bindings := [("id", "5")]

theorem fifth_bare : Bare fifth := by
  intro entry mem
  cases List.mem_singleton.mp mem
  exact ⟨by decide, by decide⟩

/-- A name that holds another placeholder ends with the first pair of closing braces. -/
theorem id_is_left_in_a_longer_name :
    Bare fifth ∧ "id" ∈ fifth.keys ∧
      (Part.placeholder "id".toList).chars <:+: (substitute "{{hall/{{id}}}}" fifth).toList := by
  have known : "id" ∈ fifth.keys := by decide
  have cut : parts "{{hall/{{id}}}}".toList =
      [.plain [], .placeholder "hall/\x7b\x7bid".toList, .plain "\x7d\x7d".toList] :=
    (parts_scanned _).unique (.next rfl (.last rfl))
  refine ⟨fifth_bare, known, (left_behind_iff fifth_bare known _).mpr
    ⟨"hall/\x7b\x7bid".toList, ?_, ?_, ?_⟩⟩
  · rw [cut]
    decide
  · decide
  · exact ⟨"\x7b\x7bhall/".toList, rfl⟩

/-- A third brace in front of a placeholder is enough to hide it. -/
theorem third_brace_hides_id :
    Bare fifth ∧ "id" ∈ fifth.keys ∧ substitute "room/{{{id}}}" fifth = "room/{{{id}}}" ∧
      (Part.placeholder "id".toList).chars <:+: (substitute "room/{{{id}}}" fifth).toList := by
  have cut : parts "room/{{{id}}}".toList =
      [.plain "room/".toList, .placeholder "\x7bid".toList, .plain "\x7d".toList] :=
    (parts_scanned _).unique (.next rfl (.last rfl))
  have same : substitute "room/{{{id}}}" fifth = "room/{{{id}}}" := by
    rw [← String.toList_inj, substitute_eq, cut]
    decide
  refine ⟨fifth_bare, by decide, same, ?_⟩
  rw [same]
  exact ⟨"room/\x7b".toList, "\x7d".toList, rfl⟩

end MqttRouting.Topic
