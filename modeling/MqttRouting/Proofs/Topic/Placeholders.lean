import MqttRouting.Topic.Placeholder

/-!
One decomposition of templates for all that is done with them. The text between placeholders
stays as it is, whatever comes in the place of a placeholder; the two passes put different
things there, and are the same scan otherwise.
-/

namespace MqttRouting.Topic

/-! Pairs of characters. -/

theorem splitAtPair_whole {c : Char} {text before after : List Char}
    (h : splitAtPair c text = some (before, after)) : text = before ++ c :: c :: after := by
  induction text generalizing before with
  | nil => cases h
  | cons a text ih =>
      cases text with
      | nil => cases h
      | cons b rest =>
          rw [splitAtPair] at h
          split at h
          · rename_i pair
            cases h
            rw [pair.1, pair.2, List.nil_append]
          · obtain ⟨⟨before', after'⟩, found, same⟩ := Option.map_eq_some_iff.mp h
            cases same
            rw [ih found, List.cons_append]

/-- Another character in front is part of what stands before the pair. -/
theorem splitAtPair_cons {c d : Char} (other : d ≠ c) (text : List Char) :
    splitAtPair c (d :: text) =
      (splitAtPair c text).map fun (before, after) => (d :: before, after) := by
  cases text with
  | nil => rfl
  | cons b rest => rw [splitAtPair, if_neg (fun pair => other pair.1)]

theorem splitAtPair_eq_none_iff {c : Char} {text : List Char} :
    splitAtPair c text = none ↔ ¬ [c, c] <:+: text := by
  induction text with
  | nil => simp [splitAtPair]
  | cons a text ih =>
      cases text with
      | nil => simp [splitAtPair, List.infix_cons_iff]
      | cons b rest =>
          rw [splitAtPair, List.infix_cons_iff, not_or, ← ih]
          by_cases pair : a = c ∧ b = c
          · simp [pair]
          · have front : ¬ [c, c] <+: a :: b :: rest := by
              simpa [eq_comm] using pair
            simp [pair, front]

/-! The decomposition. -/

/-- The first placeholder of a text, with what stands before and behind it. -/
def firstPlaceholder? (text : List Char) : Option (List Char × List Char × List Char) := do
  let (before, behind) ← splitAtPair '{' text
  let (name, rest) ← splitAtPair '}' behind
  some (before, name, rest)

/-- A text and its parts, one placeholder after the other. -/
inductive Scanned : List Char → List Part → Prop where
  | last {text : List Char} : firstPlaceholder? text = none → Scanned text [.plain text]
  | next {text before name rest : List Char} {more : List Part} :
      firstPlaceholder? text = some (before, name, rest) → Scanned rest more →
      Scanned text (.plain before :: .placeholder name :: more)

theorem parts_scanned (template : List Char) : Scanned template (parts template) := by
  fun_induction parts template with
  | case1 template opened => exact .last (by simp [firstPlaceholder?, opened])
  | case2 template before behind opened closed =>
      exact .last (by simp [firstPlaceholder?, opened, closed])
  | case3 template before behind opened name rest closed ih =>
      exact .next (by simp [firstPlaceholder?, opened, closed]) ih

/-- There is one way only to take a text apart. -/
theorem Scanned.unique {text : List Char} {ps ps' : List Part} (h : Scanned text ps)
    (h' : Scanned text ps') : ps = ps' := by
  induction h generalizing ps' with
  | last unopened =>
      cases h' with
      | last _ => rfl
      | next first _ => cases unopened.symm.trans first
  | next first _ ih =>
      cases h' with
      | last unopened => cases unopened.symm.trans first
      | next first' others =>
          cases first.symm.trans first'
          rw [ih others]

theorem firstPlaceholder?_whole {text before name rest : List Char}
    (h : firstPlaceholder? text = some (before, name, rest)) :
    text = before ++ ((Part.placeholder name).chars ++ rest) := by
  unfold firstPlaceholder? at h
  obtain ⟨⟨before', behind⟩, opened, h⟩ := Option.bind_eq_some_iff.mp h
  obtain ⟨⟨name', rest'⟩, closed, h⟩ := Option.bind_eq_some_iff.mp h
  cases h
  rw [splitAtPair_whole opened, splitAtPair_whole closed]
  simp [Part.chars]

/-! Putting something in the place of placeholders. -/

/-- A part with something else in the place of a placeholder. -/
def Part.put (filler : List Char → List Char) : Part → List Char
  | .plain text => text
  | .placeholder name => filler name

/-- What a placeholder comes to: the value of its name, or itself if there is none. -/
def valueOf (bindings : Bindings) (name : List Char) : List Char :=
  match bindings.find? (String.ofList name) with
  | some value => value.toList
  | none => (Part.placeholder name).chars

theorem Scanned.chars {text : List Char} {ps : List Part} (h : Scanned text ps) :
    ps.flatMap Part.chars = text := by
  induction h with
  | last opened => simp [Part.chars]
  | next first _ ih =>
      rw [firstPlaceholder?_whole first, List.flatMap_cons, List.flatMap_cons, ih]
      rfl

theorem substituteFrom_step (bindings : Bindings) (done text : List Char) :
    substituteFrom bindings done text =
      match firstPlaceholder? text with
      | none => done.reverse ++ text
      | some (before, name, rest) =>
        substituteFrom bindings ((valueOf bindings name).reverse ++ (before.reverse ++ done))
          rest := by
  rw [substituteFrom, firstPlaceholder?]
  split
  · rename_i opened
    simp [opened]
  · rename_i opened
    split
    · rename_i closed
      simp [opened, closed]
    · rename_i closed
      simp only [opened, closed, Option.bind_eq_bind, Option.bind_some]
      rfl

/-- The braces that open a placeholder are no part of a pair that closes one. -/
theorem splitAtPair_opening (behind : List Char) :
    splitAtPair '}' ('{' :: '{' :: behind) =
      (splitAtPair '}' behind).map fun (name, rest) => ('{' :: '{' :: name, rest) := by
  rw [splitAtPair_cons (by decide), splitAtPair_cons (by decide), Option.map_map]
  rfl

theorem fillFrom_step (done text : List Char) :
    fillFrom done text =
      match firstPlaceholder? text with
      | none => done.reverse ++ text
      | some (before, _, rest) =>
        fillFrom (sampleLevel.reverse ++ (before.reverse ++ done)) rest := by
  rw [fillFrom, firstPlaceholder?]
  split
  · rename_i opened
    simp [opened]
  · rename_i before behind opened
    have closing := splitAtPair_opening behind
    split
    · rename_i closed
      rw [closed, eq_comm, Option.map_eq_none_iff] at closing
      simp [opened, closing]
    · rename_i closed
      rw [closed, eq_comm] at closing
      obtain ⟨⟨name, rest⟩, closing, same⟩ := Option.map_eq_some_iff.mp closing
      cases same
      simp [opened, closing]

/-- A pass that puts something in the place of each placeholder, one after the other. -/
theorem pass_eq {pass : List Char → List Char → List Char} {filler : List Char → List Char}
    (step : ∀ done text, pass done text =
      match firstPlaceholder? text with
      | none => done.reverse ++ text
      | some (before, name, rest) => pass ((filler name).reverse ++ (before.reverse ++ done)) rest)
    (done template : List Char) :
    pass done template = done.reverse ++ (parts template).flatMap (Part.put filler) := by
  have scanned := parts_scanned template
  generalize parts template = ps at scanned ⊢
  induction scanned generalizing done with
  | last unopened =>
      rw [step, unopened]
      simp [Part.put]
  | next first _ ih =>
      rw [step, first]
      simp [ih, Part.put]

theorem substituteFrom_eq (bindings : Bindings) (done template : List Char) :
    substituteFrom bindings done template =
      done.reverse ++ (parts template).flatMap (Part.put (valueOf bindings)) :=
  pass_eq (substituteFrom_step bindings) done template

theorem fillFrom_eq (done template : List Char) :
    fillFrom done template =
      done.reverse ++ (parts template).flatMap (Part.put fun _ => sampleLevel) :=
  pass_eq fillFrom_step done template

theorem fill_eq (template : String) :
    (fill template).toList =
      (parts template.toList).flatMap (Part.put fun _ => sampleLevel) := by
  rw [fill, fillFrom_eq, String.toList_ofList]
  rfl

theorem isSettled_iff {template : String} {bindings : Bindings} :
    isSettled template bindings = true ↔
      bindings = [] ∨ ¬ ['{', '{'] <:+: template.toList := by
  rw [isSettled, Bool.or_eq_true, List.isEmpty_iff, Bool.not_eq_true', hasOpening,
    Option.isSome_eq_false_iff, Option.isNone_iff_eq_none, splitAtPair_eq_none_iff]

/-- What can be replaced nowhere is what would come of replacing it. -/
theorem put_of_isSettled {template : String} {bindings : Bindings}
    (settled : isSettled template bindings = true) :
    (parts template.toList).flatMap (Part.put (valueOf bindings)) = template.toList := by
  rw [isSettled_iff, ← splitAtPair_eq_none_iff] at settled
  rcases settled with rfl | unopened
  · refine Eq.trans ?_ (parts_scanned template.toList).chars
    congr 1
  · have scanned := parts_scanned template.toList
    generalize parts template.toList = ps at scanned ⊢
    cases scanned with
    | last _ => simp [Part.put]
    | next first _ => simp [firstPlaceholder?, unopened] at first

theorem substitute_eq (template : String) (bindings : Bindings) :
    (substitute template bindings).toList =
      (parts template.toList).flatMap (Part.put (valueOf bindings)) := by
  rw [substitute, resolve]
  split
  · exact (put_of_isSettled ‹_›).symm
  · rw [Resolved.text, substituteFrom_eq, String.toList_ofList]
    rfl

end MqttRouting.Topic
