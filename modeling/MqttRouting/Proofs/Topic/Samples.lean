import MqttRouting.Proofs.Topic.Decomposition

/-!
Templates filled without values and with them. The two passes look for placeholders in different
ways, and yet meet the same ones: where every name that is met has the sample level for a value,
they make the same text of a template, whatever its braces.
-/

namespace MqttRouting.Topic

/-- Every placeholder of a template has the sample level for a value. -/
def Samples (template : String) (bindings : Bindings) : Prop :=
  ∀ ps, Decomposes template.toList ps → ∀ name, Part.placeholder name ∈ ps →
    bindings.find? (String.ofList name) = some "placeholder"

theorem flatMap_put_congr {filler filler' : List Char → List Char} {ps : List Part}
    (same : ∀ name, Part.placeholder name ∈ ps → filler name = filler' name) :
    ps.flatMap (Part.put filler) = ps.flatMap (Part.put filler') := by
  rw [List.flatMap_def, List.flatMap_def]
  congr 1
  apply List.map_congr_left
  intro part mem
  cases part with
  | plain text => rfl
  | placeholder name => exact same name mem

theorem Samples.substitute_eq_fill {template : String} {bindings : Bindings}
    (samples : Samples template bindings) : substitute template bindings = fill template := by
  rw [← String.toList_inj, substitute_eq, fill_eq]
  apply flatMap_put_congr
  intro name met
  rw [valueOf, samples _ (decomposes_iff.mpr rfl) name met]
  rfl

/-! Values for any template. -/

def Part.name? : Part → Option String
  | .plain _ => none
  | .placeholder name => some (String.ofList name)

/-- The sample level as the value of these names. -/
def sampled (names : List String) : Bindings :=
  Dictionary.ofList (names.map fun name => (name, "placeholder"))

theorem find?_sampled {names : List String} {name : String} (mem : name ∈ names) :
    (sampled names).find? name = some "placeholder" := by
  rw [sampled, Dictionary.find?_ofList, ← List.map_reverse]
  have mem' : name ∈ names.reverse := List.mem_reverse.mpr mem
  generalize names.reverse = names at mem'
  induction names with
  | nil => cases mem'
  | cons first names ih =>
      rw [List.map_cons, Dictionary.find?]
      split
      · rfl
      · next other => exact ih ((List.mem_cons.mp mem').resolve_left other)

theorem samples_sampled {template : String} {names : List String}
    (all : ∀ name, Part.placeholder name ∈ parts template.toList → String.ofList name ∈ names) :
    Samples template (sampled names) := by
  intro ps whole name met
  rw [decomposes_iff.mp whole] at met
  exact find?_sampled (all name met)

/-- With the sample level for every name, substitution makes what filling makes; and there are
such values for every template. -/
theorem substitute_samples (template : String) :
    (∀ bindings, Samples template bindings → substitute template bindings = fill template) ∧
      ∃ bindings, bindings ≠ [] ∧ Samples template bindings := by
  refine ⟨fun _ samples => samples.substitute_eq_fill, ?_⟩
  -- one name more, in case that the template has none
  let names := "" :: (parts template.toList).filterMap Part.name?
  refine ⟨sampled names, fun none => ?_, samples_sampled fun name met => ?_⟩
  · have found : (sampled names).find? "" = some _ := find?_sampled List.mem_cons_self
    rw [none] at found
    cases found
  · exact List.mem_cons_of_mem _ (List.mem_filterMap.mpr ⟨_, met, rfl⟩)

/-- A stray pair, an empty name, a name with a brace and a tail that is never closed. -/
theorem braces_are_filled_alike :
    let template := "\x7d\x7dé/{{}}/{{{a}}}/\x7b\x7bb"
    Samples template (sampled ["", "\x7ba"]) ∧
      substitute template (sampled ["", "\x7ba"]) = fill template ∧
      fill template = "\x7d\x7dé/placeholder/placeholder\x7d/\x7b\x7bb" := by
  intro template
  have behind : Scanned "/{{{a}}}/\x7b\x7bb".toList
      [.plain "/".toList, .placeholder "\x7ba".toList, .plain "\x7d/\x7b\x7bb".toList] :=
    .next rfl (.last rfl)
  have cut : parts template.toList =
      [.plain "\x7d\x7dé/".toList, .placeholder [], .plain "/".toList, .placeholder "\x7ba".toList,
        .plain "\x7d/\x7b\x7bb".toList] :=
    (parts_scanned _).unique (.next (by decide) behind)
  have samples : Samples template (sampled ["", "\x7ba"]) := by
    apply samples_sampled
    intro name met
    rw [cut] at met
    obtain rfl | rfl : name = [] ∨ name = "\x7ba".toList := by simpa using met
    · decide
    · decide
  refine ⟨samples, (substitute_samples template).1 _ samples, ?_⟩
  rw [← String.toList_inj, fill_eq, cut]
  decide

end MqttRouting.Topic
