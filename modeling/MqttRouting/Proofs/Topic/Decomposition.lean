import MqttRouting.Proofs.Topic.Placeholders
import Mathlib.Data.List.Forall2

/-!
Templates taken apart without a scan. A placeholder opens at the first pair of opening braces
behind the one before it, and closes at the first pair of closing braces behind its opening. This
tells all of the parts of a template, and putting values in replaces those placeholders that have
one, each on its own.
-/

namespace MqttRouting.Topic

/-! The first pair of a character. -/

/-- Between two texts a character stands twice, and in no earlier place. -/
def FirstPair (c : Char) (before after : List Char) : Prop :=
  ∀ before' after', before ++ c :: c :: after = before' ++ c :: c :: after' →
    before.length ≤ before'.length

theorem FirstPair.cons {c a : Char} {before after : List Char} (first : FirstPair c before after)
    (other : ∀ rest, a :: (before ++ c :: c :: after) ≠ c :: c :: rest) :
    FirstPair c (a :: before) after := by
  intro before' after' whole
  cases before' with
  | nil => exact absurd whole (other after')
  | cons b before' =>
      have behind := first before' after' (List.cons.inj whole).2
      exact Nat.succ_le_succ behind

theorem FirstPair.unique {c : Char} {before after before' after' : List Char}
    (first : FirstPair c before after) (first' : FirstPair c before' after')
    (same : before ++ c :: c :: after = before' ++ c :: c :: after') :
    before = before' ∧ after = after' := by
  have lengths := Nat.le_antisymm (first before' after' same) (first' before after same.symm)
  obtain ⟨front, rest⟩ := List.append_inj same lengths
  cases rest
  exact ⟨front, rfl⟩

theorem splitAtPair_first {c : Char} {text before after : List Char}
    (h : splitAtPair c text = some (before, after)) : FirstPair c before after := by
  induction text generalizing before with
  | nil => cases h
  | cons a text ih =>
      cases text with
      | nil => cases h
      | cons b rest =>
          rw [splitAtPair] at h
          split at h
          · cases h
            exact fun before' _ _ => Nat.zero_le _
          · rename_i other
            obtain ⟨⟨before', after'⟩, found, same⟩ := Option.map_eq_some_iff.mp h
            cases same
            apply (ih found).cons
            intro rest' whole
            rw [← splitAtPair_whole found] at whole
            cases whole
            exact other ⟨rfl, rfl⟩

theorem splitAtPair_eq_some_iff {c : Char} {text before after : List Char} :
    splitAtPair c text = some (before, after) ↔
      text = before ++ c :: c :: after ∧ FirstPair c before after := by
  constructor
  · intro found
    exact ⟨splitAtPair_whole found, splitAtPair_first found⟩
  · rintro ⟨rfl, first⟩
    cases found : splitAtPair c (before ++ c :: c :: after) with
    | none =>
        rw [splitAtPair_eq_none_iff] at found
        exact absurd ⟨before, after, by simp⟩ found
    | some cut =>
        have whole := splitAtPair_whole found
        obtain ⟨front, rest⟩ := (splitAtPair_first found).unique first whole.symm
        rw [← front, ← rest]

/-! The parts of a template. -/

/-- Behind no pair of opening braces is there a pair of closing ones. -/
def Unclosed (text : List Char) : Prop :=
  ∀ before behind, text = before ++ '{' :: '{' :: behind → ¬ ['}', '}'] <:+: behind

/-- A template and its parts. -/
inductive Decomposes : List Char → List Part → Prop where
  | tail {text : List Char} : Unclosed text → Decomposes text [.plain text]
  | next {before name rest : List Char} {more : List Part} :
      FirstPair '{' before (name ++ '}' :: '}' :: rest) → FirstPair '}' name rest →
      Decomposes rest more →
      Decomposes (before ++ '{' :: '{' :: (name ++ '}' :: '}' :: rest))
        (.plain before :: .placeholder name :: more)

theorem firstPlaceholder?_eq_some_iff {text before name rest : List Char} :
    firstPlaceholder? text = some (before, name, rest) ↔
      text = before ++ '{' :: '{' :: (name ++ '}' :: '}' :: rest) ∧
        FirstPair '{' before (name ++ '}' :: '}' :: rest) ∧ FirstPair '}' name rest := by
  constructor
  · intro found
    obtain ⟨⟨before', behind⟩, opened, found⟩ := Option.bind_eq_some_iff.mp found
    obtain ⟨⟨name', rest'⟩, closed, same⟩ := Option.bind_eq_some_iff.mp found
    cases same
    obtain ⟨whole, first⟩ := splitAtPair_eq_some_iff.mp opened
    obtain ⟨rfl, last⟩ := splitAtPair_eq_some_iff.mp closed
    exact ⟨whole, first, last⟩
  · rintro ⟨rfl, opened, closed⟩
    simp [firstPlaceholder?, splitAtPair_eq_some_iff.mpr ⟨rfl, opened⟩,
      splitAtPair_eq_some_iff.mpr ⟨rfl, closed⟩]

theorem firstPlaceholder?_eq_none_iff {text : List Char} :
    firstPlaceholder? text = none ↔ Unclosed text := by
  constructor
  · intro nothing before behind whole closes
    cases opened : splitAtPair '{' text with
    | none => exact splitAtPair_eq_none_iff.mp opened ⟨before, behind, by simp [whole]⟩
    | some cut =>
        -- what is behind this pair is behind the first one too
        obtain ⟨before', behind'⟩ := cut
        obtain ⟨whole', first⟩ := splitAtPair_eq_some_iff.mp opened
        have later : behind <:+ behind' := by
          have shorter := first before behind (whole'.symm.trans whole)
          have lengths := congrArg List.length (whole'.symm.trans whole)
          simp only [List.length_append, List.length_cons] at lengths
          have ends : behind <:+ text := ⟨before ++ ['{', '{'], by simp [whole]⟩
          have ends' : behind' <:+ text := ⟨before' ++ ['{', '{'], by simp [whole']⟩
          exact List.suffix_of_suffix_length_le ends ends' (by omega)
        cases closed : splitAtPair '}' behind' with
        | none => exact splitAtPair_eq_none_iff.mp closed (closes.trans later.isInfix)
        | some _ => simp [firstPlaceholder?, opened, closed] at nothing
  · intro unclosed
    cases found : firstPlaceholder? text with
    | none => rfl
    | some cut =>
        obtain ⟨before, name, rest⟩ := cut
        obtain ⟨whole, _⟩ := firstPlaceholder?_eq_some_iff.mp found
        exact absurd ⟨name, rest, by simp⟩ (unclosed _ _ whole)

theorem decomposes_iff_scanned {text : List Char} {ps : List Part} :
    Decomposes text ps ↔ Scanned text ps := by
  constructor
  · intro h
    induction h with
    | tail unclosed => exact .last (firstPlaceholder?_eq_none_iff.mpr unclosed)
    | next opened closed _ ih =>
        exact .next (firstPlaceholder?_eq_some_iff.mpr ⟨rfl, opened, closed⟩) ih
  · intro h
    induction h with
    | last nothing => exact .tail (firstPlaceholder?_eq_none_iff.mp nothing)
    | next first _ ih =>
        obtain ⟨rfl, opened, closed⟩ := firstPlaceholder?_eq_some_iff.mp first
        exact .next opened closed ih

/-- A template has these parts and no other. -/
theorem decomposes_iff {text : List Char} {ps : List Part} :
    Decomposes text ps ↔ ps = parts text := by
  rw [decomposes_iff_scanned]
  constructor
  · intro scanned
    exact scanned.unique (parts_scanned text)
  · rintro rfl
    exact parts_scanned text

/-! Rewriting. -/

/-- What comes of a template when each placeholder that has a value is replaced by it. -/
def Rewrites (bindings : Bindings) (template result : String) : Prop :=
  ∃ ps, Decomposes template.toList ps ∧ result.toList = ps.flatMap (Part.put (valueOf bindings))

theorem substitute_rewrites (bindings : Bindings) (template : String) :
    Rewrites bindings template (substitute template bindings) :=
  ⟨_, decomposes_iff.mpr rfl, substitute_eq template bindings⟩

theorem resolve_eq_kept_iff {template text : String} {bindings : Bindings} :
    resolve template bindings = .kept text ↔
      text = template ∧ (bindings = [] ∨ ¬ ['{', '{'] <:+: template.toList) := by
  rw [resolve, ← isSettled_iff]
  by_cases settled : isSettled template bindings = true
  · simp [settled, eq_comm]
  · simp [settled]

/-- A template has one decomposition, and what is made of it is the text of its parts with the
values put in. It is the template itself exactly if there are no values or nothing opens. -/
theorem resolve_rewrites (bindings : Bindings) :
    (∀ template, (∃! ps, Decomposes template.toList ps) ∧
      Rewrites bindings template (resolve template bindings).text ∧
      ∀ text, resolve template bindings = .kept text ↔
        text = template ∧ (bindings = [] ∨ ¬ ['{', '{'] <:+: template.toList)) ∧
    ∀ templates, List.Forall₂ (Rewrites bindings) templates (substituteAll templates bindings) := by
  constructor
  · intro template
    have one : ∃! ps, Decomposes template.toList ps :=
      ⟨_, decomposes_iff.mpr rfl, fun ps => decomposes_iff.mp⟩
    exact ⟨one, substitute_rewrites bindings template, fun text => resolve_eq_kept_iff⟩
  · intro templates
    induction templates with
    | nil => exact .nil
    | cons template rest ih => exact .cons (substitute_rewrites bindings template) ih

/-- Of three braces the first two open, and what opens in the tail is never closed. -/
example : parts "\x7b\x7b\x7ba\x7d\x7d\x7d/\x7b\x7bé".toList =
    [.plain [], .placeholder "\x7ba".toList, .plain "\x7d/\x7b\x7bé".toList] :=
  (parts_scanned _).unique (.next rfl (.last rfl))

end MqttRouting.Topic
