import MqttRouting.Proofs.Declaration
import MqttRouting.Proofs.Dispatcher.Routing
import MqttRouting.Proofs.Dispatcher.Surroundings
import MqttRouting.Proofs.Topic.Captures
import MqttRouting.Topic.Engine.Sized

/-!
The arguments of a handler call. Whatever a dispatcher has been through, the slots of a call
are those of the parameters of the first subscriber that matches, each filled with what its
kind stands for; the hook is asked before any decoder, and the first payload that cannot be
decoded is the answer.

Asking a hook or a decoder may have effects on its surroundings. A preparation within
surroundings makes the same call, and tells whom it has asked.
-/

namespace MqttRouting

variable {σ ν : Type}

/-! What parameters stand for. -/

namespace Declaration

/-- The transform of a payload parameter: its own, else that of the declaration, else none. -/
def resolved (declaration : Declaration ν) (p : Parameter) : TransformSpec :=
  (p.transform.or declaration.transform).getD .raw

end Declaration

namespace Transforms

/-- What a transform makes of a payload. A named one has to be known. -/
def made (transforms : Transforms) (payload : List UInt8) :
    TransformSpec → Except TransformError Payload
  | .raw => .ok (.raw payload)
  | .text => Decoder.text payload
  | .json => Decoder.json payload
  | .custom decoder => decoder payload
  | .named name =>
    match transforms.named.find? name with
    | some decoder => decoder payload
    | none => .error (.unknownTransform name)

theorem decode_resolved (transforms : Transforms) (declaration : Declaration ν) (p : Parameter)
    (payload : List UInt8) :
    transforms.decode (declaration.payloadTransform p) payload =
      transforms.made payload (declaration.resolved p) := by
  unfold Declaration.payloadTransform Declaration.resolved
  cases p.transform.or declaration.transform with
  | none => rfl
  | some spec =>
      cases spec with
      | raw => rfl
      | text => rfl
      | json => rfl
      | custom decoder => rfl
      | named name =>
          simp only [decode, resolve, Option.getD_some, made]
          cases transforms.named.find? name <;> rfl

end Transforms

/-- The argument that a parameter stands for, told from its kind. -/
inductive Provides (transforms : Transforms) (s : Subscriber ν) (m : Message) (p : Parameter) :
    Arg → Prop where
  | payload {value : Payload} :
      p.kind = .payload → transforms.made m.payload (s.declaration.resolved p) = .ok value →
      Provides transforms s m p (.payload value)
  | topic : p.kind = .topic → Provides transforms s m p (.topic m.topic)
  | packet : p.kind = .packet → Provides transforms s m p (.packet m.packet)
  | params :
      p.kind = .params → (s.captures m.topic).length = s.topic.matcher.wildcardCount →
      Provides transforms s m p (.params (s.captures m.topic))

/-- A parameter wants the payload, and it cannot be decoded. -/
def Fails (transforms : Transforms) (s : Subscriber ν) (m : Message) (p : Parameter)
    (cause : TransformError) : Prop :=
  p.kind = .payload ∧ transforms.made m.payload (s.declaration.resolved p) = .error cause

/-- The first of the parameters that fails, in the order of their declaration. -/
def FirstFails (transforms : Transforms) (s : Subscriber ν) (m : Message)
    (parameters : List Parameter) (cause : TransformError) : Prop :=
  ∃ before p after, parameters = before ++ p :: after ∧ Fails transforms s m p cause ∧
    ∀ q ∈ before, ∀ other, ¬ Fails transforms s m q other

/-- The slots of a call: just enough for all positions, filled where a parameter was declared,
with what it stands for. -/
structure Filled (transforms : Transforms) (s : Subscriber ν) (m : Message)
    (slots : List (Option Arg)) : Prop where
  size : slots.length =
    ((s.declaration.parameters.map fun p => p.position + 1).max?).getD 0
  filled (position : Nat) : (∃ arg, slots[position]? = some (some arg)) ↔
    ∃ p ∈ s.declaration.parameters, p.position = position
  holds : ∀ p ∈ s.declaration.parameters, ∃ arg,
    slots[p.position]? = some (some arg) ∧ Provides transforms s m p arg

namespace Subscriber

/-- A subscriber with the matcher of a route, and with one parameter to a position. -/
structure Sound [Topic.Engine] (s : Subscriber ν) : Prop where
  distinct : (s.declaration.parameters.map Parameter.position).Nodup
  compiled : ∃ route, Topic.Matcher.compile route = .ok s.topic.matcher

/-- The same subscriber with its parameters in another order. -/
def reorder (s : Subscriber ν) (parameters : List Parameter) : Subscriber ν :=
  { s with declaration := s.declaration.reorder parameters }

theorem Sound.reorder [Topic.Engine] {s : Subscriber ν} (h : s.Sound) {parameters : List Parameter}
    (perm : parameters.Perm s.declaration.parameters) : (s.reorder parameters).Sound :=
  ⟨(perm.map Parameter.position).nodup_iff.mpr h.distinct, h.compiled⟩

end Subscriber

namespace Dispatcher

/-! Single parameters. -/

theorem captures_length [Topic.Engine] {s : Subscriber ν} (sound : s.Sound) {topic : String}
    (matched : s.isMatch topic = true) :
    (s.captures topic).length = s.topic.matcher.wildcardCount := by
  obtain ⟨route, compiled⟩ := sound.compiled
  have made := Topic.Matcher.compile_made compiled
  obtain ⟨groups, accepted⟩ := (Topic.Matcher.isMatch_iff made topic).mp matched
  have captured := Topic.Matcher.captures_of_accepts made accepted
  rw [Topic.Expression.ofSegments_pieces] at accepted
  obtain ⟨fits, _⟩ := Topic.render_held made.reads made.proper accepted
  rw [Subscriber.captures, captured, List.length_map]
  exact Topic.fits_length made.reads made.proper fits

section Parameters

variable {d : Dispatcher ν} {s : Subscriber ν} {m : Message}

theorem argument_provides [Topic.Engine] (sound : s.Sound) (matched : s.isMatch m.topic = true)
    (p : Parameter) (arg : Arg) : d.argument s m p = .ok arg ↔ Provides d.transforms s m p arg := by
  have counted := captures_length sound matched
  unfold argument
  rw [Transforms.decode_resolved]
  constructor
  · intro h
    cases kind : p.kind with
    | payload =>
        simp only [kind] at h
        split at h
        · cases h
          exact .payload kind ‹_›
        · cases h
    | topic =>
        simp only [kind] at h
        cases h
        exact .topic kind
    | packet =>
        simp only [kind] at h
        cases h
        exact .packet kind
    | params =>
        simp only [kind] at h
        cases h
        exact .params kind counted
  · intro h
    cases h with
    | payload kind value => simp only [kind, value]
    | topic kind => simp only [kind]
    | packet kind => simp only [kind]
    | params kind _ => simp only [kind]

theorem argument_error_iff (p : Parameter) (e : DispatchError) :
    d.argument s m p = .error e ↔
      ∃ cause, e = .transform m.topic cause ∧ Fails d.transforms s m p cause := by
  unfold argument Fails
  rw [Transforms.decode_resolved]
  cases p.kind with
  | payload =>
      cases d.transforms.made m.payload (s.declaration.resolved p) with
      | ok value => simp
      | error cause => simp [eq_comm]
  | topic => simp
  | packet => simp
  | params => simp

theorem argument_ok_of_no_failure {p : Parameter}
    (h : ∀ cause, ¬ Fails d.transforms s m p cause) : ∃ arg, d.argument s m p = .ok arg := by
  cases outcome : d.argument s m p with
  | ok arg => exact ⟨arg, rfl⟩
  | error e =>
      obtain ⟨cause, _, fails⟩ := (argument_error_iff p e).mp outcome
      exact absurd fails (h cause)

/-! All parameters. -/

/-- The first failure in the order of declaration is the answer. -/
theorem fillSlots_first_failure {parameters : List Parameter} {cause : TransformError}
    (h : FirstFails d.transforms s m parameters cause) (slots : List (Option Arg)) :
    d.fillSlots s m parameters slots = .error (.transform m.topic cause) := by
  obtain ⟨before, p, after, rfl, fails, earlier⟩ := h
  induction before generalizing slots with
  | nil =>
      rw [List.nil_append, fillSlots, (argument_error_iff p _).mpr ⟨cause, rfl, fails⟩]
  | cons q before ih =>
      obtain ⟨first, others⟩ := List.forall_mem_cons.mp earlier
      obtain ⟨arg, taken⟩ := argument_ok_of_no_failure first
      rw [List.cons_append, fillSlots, taken]
      exact ih _ others

/-- Every parameter ends up at its position, and nothing else changes. -/
theorem fillSlots_ok {parameters : List Parameter} {slots filled : List (Option Arg)}
    (distinct : (parameters.map Parameter.position).Nodup)
    (room : ∀ p ∈ parameters, p.position < slots.length)
    (h : d.fillSlots s m parameters slots = .ok filled) :
    filled.length = slots.length ∧
      (∀ p ∈ parameters, ∃ arg, filled[p.position]? = some (some arg) ∧
        d.argument s m p = .ok arg) ∧
      ∀ position, position ∉ parameters.map Parameter.position →
        filled[position]? = slots[position]? := by
  induction parameters generalizing slots with
  | nil =>
      cases h
      simp
  | cons p rest ih =>
      rw [fillSlots] at h
      cases taken : d.argument s m p with
      | error e =>
          rw [taken] at h
          cases h
      | ok arg =>
          rw [taken] at h
          rw [List.map_cons, List.nodup_cons] at distinct
          obtain ⟨here, others⟩ := List.forall_mem_cons.mp room
          obtain ⟨length, holds, untouched⟩ :=
            ih distinct.2 (by simpa using others) h
          refine ⟨by simpa using length, List.forall_mem_cons.mpr ⟨⟨arg, ?_, taken⟩, holds⟩, ?_⟩
          · rw [untouched _ distinct.1, List.getElem?_set_self here]
          · intro position other
            rw [List.map_cons, List.mem_cons, not_or] at other
            rw [untouched _ other.2, List.getElem?_set_ne (Ne.symm other.1)]

theorem fillSlots_filled [Topic.Engine] (sound : s.Sound) (matched : s.isMatch m.topic = true)
    {slots : List (Option Arg)}
    (h : d.fillSlots s m s.declaration.parameters (List.replicate s.declaration.arity none) =
      .ok slots) : Filled d.transforms s m slots := by
  obtain ⟨length, holds, untouched⟩ := fillSlots_ok sound.distinct
    (fun p mem => by simpa using Declaration.position_lt_arity mem) h
  refine ⟨by rw [length, List.length_replicate, Declaration.arity_eq], fun position => ?_, ?_⟩
  · constructor
    · rintro ⟨arg, present⟩
      by_contra absent
      rw [untouched position (by simpa using absent), List.getElem?_replicate] at present
      split at present <;> cases present
    · rintro ⟨p, mem, rfl⟩
      obtain ⟨arg, present, _⟩ := holds p mem
      exact ⟨arg, present⟩
  · intro p mem
    obtain ⟨arg, present, taken⟩ := holds p mem
    exact ⟨arg, present, (argument_provides sound matched p arg).mp taken⟩

end Parameters

/-! Registered subscribers. -/

theorem subscribers_sound [Topic.Engine] {settings : Settings} {declaration : Declaration ν}
    (declared : declaration.Built) {subscribers : List (Subscriber ν)}
    (compiled : declaration.subscribers settings = .ok subscribers) {s : Subscriber ν}
    (mem : s ∈ subscribers) : s.Sound := by
  obtain ⟨rfl, template, _, compiled⟩ := Declaration.mem_subscribers compiled mem
  obtain ⟨matcher, built, same⟩ := Topic.Compiled.compile_ok compiled
  have own : s.topic.matcher = matcher := by rw [same]; rfl
  exact ⟨declared.distinct, _, own ▸ built⟩

/-- Whatever a dispatcher has been through, its registry holds subscribers of built
declarations only. -/
theorem registered_sound [Topic.Engine] {settings : Settings} {transforms : Transforms}
    {hook : Option Hook} {declarations : List (Declaration ν)} {d : Dispatcher ν}
    (built : ofDeclarations settings transforms hook declarations = .ok d)
    (declared : ∀ declaration ∈ declarations, declaration.Built) {history : List (Command ν)}
    (additions : ∀ declaration, .add declaration ∈ history → declaration.Built) :
    ∀ s ∈ (d.run history).2.registry.entries, s.Sound := by
  intro s mem
  obtain ⟨_, _, unused, _⟩ := ofDeclarations_ok built
  have now := unused.reflects.run history
  obtain ⟨declaration, origin, subscribers, compiled, mem⟩ :=
    now.mem_compiled built (now.compiled_of_registered mem)
  rcases origin with member | member
  · exact subscribers_sound (declared declaration member) compiled mem
  · exact subscribers_sound (additions declaration member) compiled mem

end Dispatcher

namespace Provides

variable {transforms : Transforms} {s : Subscriber ν} {m : Message} {p : Parameter}

/-- A parameter stands for one argument only. -/
theorem unique {a b : Arg} (ha : Provides transforms s m p a) (hb : Provides transforms s m p b) :
    a = b := by
  cases ha with
  | payload kind value =>
      cases hb with
      | payload _ value' => rw [Except.ok.inj (value.symm.trans value')]
      | topic kind' => simp [kind] at kind'
      | packet kind' => simp [kind] at kind'
      | params kind' => simp [kind] at kind'
  | topic kind => cases hb <;> simp_all
  | packet kind => cases hb <;> simp_all
  | params kind => cases hb <;> simp_all

theorem of_reorder {parameters : List Parameter} {a : Arg}
    (h : Provides transforms (s.reorder parameters) m p a) : Provides transforms s m p a := by
  cases h with
  | payload kind value => exact .payload kind value
  | topic kind => exact .topic kind
  | packet kind => exact .packet kind
  | params kind count => exact .params kind count

end Provides

namespace Filled

variable {transforms : Transforms} {s : Subscriber ν} {m : Message} {slots slots' : List (Option Arg)}

theorem size_eq (h : Filled transforms s m slots) : slots.length = s.declaration.arity := by
  rw [h.size, Declaration.arity_eq]

theorem get?_undeclared (h : Filled transforms s m slots) {position : Nat}
    (room : position < slots.length) (undeclared : ¬ ∃ p ∈ s.declaration.parameters,
      p.position = position) : slots[position]? = some none := by
  cases found : slots[position]? with
  | none => exact absurd (List.getElem?_eq_none_iff.mp found) (by omega)
  | some slot =>
      cases slot with
      | none => rfl
      | some arg => exact absurd ((h.filled position).mp ⟨arg, found⟩) undeclared

/-- The slots do not depend on the order in which the parameters were declared. -/
theorem eq_of_reorder {parameters : List Parameter}
    (perm : parameters.Perm s.declaration.parameters) (h : Filled transforms s m slots)
    (h' : Filled transforms (s.reorder parameters) m slots') : slots' = slots := by
  have size : slots'.length = slots.length := by
    rw [h.size_eq, h'.size_eq]
    exact Declaration.arity_reorder perm
  apply List.ext_getElem?
  intro position
  by_cases room : position < slots.length
  · by_cases declared : ∃ p ∈ s.declaration.parameters, p.position = position
    · obtain ⟨p, mem, rfl⟩ := declared
      obtain ⟨arg, present, provides⟩ := h.holds p mem
      obtain ⟨arg', present', provides'⟩ := h'.holds p (perm.mem_iff.mpr mem)
      rw [present, present', provides.unique provides'.of_reorder]
    · have undeclared' : ¬ ∃ p ∈ (s.reorder parameters).declaration.parameters,
          p.position = position := by
        rintro ⟨p, mem, same⟩
        exact declared ⟨p, perm.mem_iff.mp mem, same⟩
      rw [h.get?_undeclared room declared, h'.get?_undeclared (size ▸ room) undeclared']
  · rw [List.getElem?_eq_none (by omega), List.getElem?_eq_none (by omega)]

end Filled

namespace Dispatcher

theorem prepare_found {d : Dispatcher ν} {s : Subscriber ν} {m : Message}
    (found : d.registry.findMatch? m.topic = some s) (passed : d.checkHook m = .ok ()) :
    d.prepare m =
      (d.fillSlots s m s.declaration.parameters (List.replicate s.declaration.arity none)).map
        fun slots => some ⟨s, ⟨slots⟩⟩ := by
  simp only [prepare, found, passed]
  cases d.fillSlots s m s.declaration.parameters
      (List.replicate s.declaration.arity none) <;> rfl

/-- The arguments of a call are what its slots have been filled with. -/
theorem prepare_slots {d : Dispatcher ν} {m : Message} {c : Call ν}
    (h : d.prepare m = .ok (some c)) :
    d.fillSlots c.subscriber m c.subscriber.declaration.parameters
      (List.replicate c.subscriber.declaration.arity none) = .ok c.args.slots := by
  unfold prepare at h
  split at h
  · cases h
  · split at h
    · cases h
    · split at h
      · cases h
      · cases h
        assumption

theorem findMatch?_isMatch {r : Registry ν} {topic : String} {s : Subscriber ν}
    (found : r.findMatch? topic = some s) : s ∈ r.entries ∧ s.isMatch topic = true := by
  unfold Registry.findMatch? at found
  have matched := List.find?_some found
  exact ⟨List.mem_of_find?_eq_some found, matched⟩

/-- Nothing is made of a message exactly if nobody matches it. -/
theorem prepare_none_iff (d : Dispatcher ν) (m : Message) :
    d.prepare m = .ok none ↔ d.registry.findMatch? m.topic = none := by
  constructor
  · intro h
    unfold prepare at h
    split at h
    · assumption
    · split at h
      · cases h
      · split at h <;> cases h
  · intro unmatched
    simp only [prepare, unmatched]

theorem prepare_of_failed_hook {d : Dispatcher ν} {s : Subscriber ν} {m : Message}
    (found : d.registry.findMatch? m.topic = some s) {check : Hook} {e : HandlerError}
    (hooked : d.hook = some check) (failed : check m = .error e) :
    d.prepare m = .error (.beforeHandle m.topic e) := by
  simp [prepare, found, checkHook, hooked, failed, Except.mapError]

/-- Where the hook passes and nothing fails, the call has the slots of the parameters. -/
theorem prepare_filled [Topic.Engine] {d : Dispatcher ν} {s : Subscriber ν} {m : Message}
    (sound : s.Sound) (found : d.registry.findMatch? m.topic = some s)
    (passed : ∀ check, d.hook = some check → check m = .ok ())
    (decoded : ∀ p ∈ s.declaration.parameters, ∀ cause, ¬ Fails d.transforms s m p cause) :
    ∃ slots, d.prepare m = .ok (some ⟨s, ⟨slots⟩⟩) ∧ Filled d.transforms s m slots := by
  obtain ⟨slots, filled⟩ := (fillSlots_ok_iff d s m s.declaration.parameters
    (List.replicate s.declaration.arity none)).mpr
    fun p mem => argument_ok_of_no_failure (decoded p mem)
  refine ⟨slots, ?_, fillSlots_filled sound (findMatch?_isMatch found).2 filled⟩
  rw [prepare_found found ((checkHook_ok_iff d m).mpr passed), filled]
  rfl

/-- What a dispatcher makes of a message, after any history. Writing down who is asked makes no
difference to it. It makes nothing exactly if no registered route matches, and then nobody is
asked; else the error of the hook, which is asked first; else the first failure among the payload
parameters of the earliest subscriber that matches; else a call with the slots of the declared
positions. In which order the parameters were declared makes no difference to the slots. -/
theorem prepare_made_of_parameters [Topic.Engine] {settings : Settings} {transforms : Transforms}
    {hook : Option Hook} {declarations : List (Declaration ν)} {d : Dispatcher ν}
    (built : ofDeclarations settings transforms hook declarations = .ok d)
    (declared : ∀ declaration ∈ declarations, declaration.Built) (history : List (Command ν))
    (additions : ∀ declaration, .add declaration ∈ history → declaration.Built) (m : Message) :
    let now := (d.run history).2
    now.prepareIn .recorder m [] = (now.prepare m, now.inquiries m) ∧
    (now.prepare m = .ok none ↔ ∀ s ∈ now.registry.entries, s.isMatch m.topic = false) ∧
    (now.prepare m = .ok none → now.inquiries m = []) ∧
    ∀ s, now.registry.findMatch? m.topic = some s →
      (∀ check e, hook = some check → check m = .error e →
        now.prepare m = .error (.beforeHandle m.topic e) ∧ now.inquiries m = [.hook check m]) ∧
      ((∀ check, hook = some check → check m = .ok ()) →
        (∃ decodings, Decodings m decodings ∧
          now.inquiries m = (hook.map (Inquiry.hook · m)).toList ++ decodings) ∧
        (∀ cause, FirstFails transforms s m s.declaration.parameters cause →
          now.prepare m = .error (.transform m.topic cause)) ∧
        ((∀ p ∈ s.declaration.parameters, ∀ cause, ¬ Fails transforms s m p cause) →
          ∃ slots, now.prepare m = .ok (some ⟨s, ⟨slots⟩⟩) ∧ Filled transforms s m slots ∧
            ∀ (other : Dispatcher ν) (parameters : List Parameter),
              parameters.Perm s.declaration.parameters → other.transforms = transforms →
              other.hook = hook →
              other.registry.findMatch? m.topic = some (s.reorder parameters) →
              other.prepare m = .ok (some ⟨s.reorder parameters, ⟨slots⟩⟩))) := by
  intro now
  have registered : ∀ s ∈ now.registry.entries, s.Sound :=
    registered_sound built declared additions
  obtain ⟨_, _, unused, _, rfl, rfl, _⟩ := ofDeclarations_ok built
  have standing := unused.reflects.run history
  have same : now.transforms = d.transforms := standing.transforms
  have hooked : now.hook = d.hook := standing.hook
  rw [← same, ← hooked]
  refine ⟨now.prepareIn_recorder m, ?_, ?_, fun s found => ⟨?_, fun passed => ⟨?_, ?_, ?_⟩⟩⟩
  · rw [prepare_none_iff, Registry.findMatch?, List.find?_eq_none]
    simp only [Bool.not_eq_true]
  · intro nothing
    exact inquiries_unmatched ((prepare_none_iff now m).mp nothing)
  · intro check e hook_eq failed
    exact ⟨prepare_of_failed_hook found hook_eq failed,
      inquiries_of_failed_hook found hook_eq failed⟩
  · exact inquiries_of_passed_hook found passed
  · intro cause first
    rw [prepare_found found ((checkHook_ok_iff now m).mpr passed),
      fillSlots_first_failure first]
    rfl
  · intro decoded
    obtain ⟨matched, _⟩ := findMatch?_isMatch found
    obtain ⟨slots, made, filled⟩ := prepare_filled (registered s matched) found passed decoded
    refine ⟨slots, made, filled, ?_⟩
    intro other parameters perm transforms_eq hook_eq found'
    obtain ⟨slots', made', filled'⟩ := prepare_filled ((registered s matched).reorder perm) found'
      (hook_eq ▸ passed)
      (fun p mem cause => transforms_eq ▸ decoded p (perm.mem_iff.mp mem) cause)
    rw [transforms_eq] at filled'
    rw [made', filled.eq_of_reorder perm filled']

end Dispatcher

/-- A declaration with positions out of order and a gap between them. -/
def Declaration.gappy : Declaration Unit where
  topics := ["a/+/#"]
  handler := .idle
  owner := "gaps"
  transform := some .text
  parameters := [⟨3, .params, none⟩, ⟨0, .payload, none⟩, ⟨1, .topic, none⟩]

namespace Dispatcher

/-- Positions are declared out of order and with a gap, under a hook that looks at the payload:
the slots come in order, with the gap left empty, and the same if the declaration is turned
around; and an empty payload goes no further than the hook. -/
theorem slots_of_a_gappy_declaration :
    ∃ d : Dispatcher Unit, ofDeclarations {} {} (some .rejectEmpty) [] = .ok d ∧
      Declaration.gappy.Built ∧
      let now := (d.run [.event (.connected false), .add .gappy]).2
      let reversed := (d.run [.event (.connected false), .add
        (Declaration.gappy.reorder Declaration.gappy.parameters.reverse)]).2
      let slots := [some (.payload (.text "hi")), some (.topic "a/b/c"), none,
        some (.params ["b", "/c"])]
      (∃ s, now.prepare (.plain "a/b/c" [104, 105]) = .ok (some ⟨s, ⟨slots⟩⟩) ∧
        Filled {} s (.plain "a/b/c" [104, 105]) slots ∧
        ∃ s', reversed.prepare (.plain "a/b/c" [104, 105]) = .ok (some ⟨s', ⟨slots⟩⟩)) ∧
      now.prepare (.plain "a/b/c" []) =
        .error (.beforeHandle "a/b/c" (.failed "empty payload")) ∧
      now.inquiries (.plain "a/b/c" []) = [.hook .rejectEmpty (.plain "a/b/c" [])] := by
  have built : Declaration.gappy.Built :=
    ⟨{ Declaration.gappy with handler := some .idle }, rfl⟩
  refine ⟨{ settings := {}, hook := some .rejectEmpty }, rfl, built, ?_⟩
  intro now reversed
  have started : ofDeclarations {} {} (some .rejectEmpty) ([] : List (Declaration Unit)) =
      .ok { settings := {}, hook := some .rejectEmpty } := rfl
  have made := prepare_made_of_parameters started (by simp)
    [.event (.connected false), .add .gappy] (by simp [built])
  obtain ⟨s, found, declared, captured, found'⟩ : ∃ s,
      now.registry.findMatch? "a/b/c" = some s ∧ s.declaration = .gappy ∧
      s.captures "a/b/c" = ["b", "/c"] ∧ reversed.registry.findMatch? "a/b/c" =
        some (s.reorder Declaration.gappy.parameters.reverse) := ⟨_, rfl, rfl, by cbv, rfl⟩
  obtain ⟨rejected, asked⟩ := ((made (.plain "a/b/c" [])).2.2.2 s found).1 .rejectEmpty _ rfl rfl
  obtain ⟨_, _, called⟩ :=
    ((made (.plain "a/b/c" [104, 105])).2.2.2 s found).2 (by rintro _ ⟨rfl⟩; rfl)
  have tail : now.argument s (.plain "a/b/c" [104, 105]) ⟨3, .params, none⟩ =
      .ok (.params ["b", "/c"]) := congrArg (Except.ok ∘ Arg.params) captured
  have text : now.transforms.made [104, 105] (Declaration.gappy.resolved ⟨0, .payload, none⟩) =
      .ok (.text "hi") := by
    change Transforms.made {} [104, 105] .text = _
    cbv
  have body : now.argument s (.plain "a/b/c" [104, 105]) ⟨0, .payload, none⟩ =
      .ok (.payload (.text "hi")) := by
    simp only [argument, Transforms.decode_resolved, declared, Message.plain, text]
  have evaluated : now.prepare (.plain "a/b/c" [104, 105]) =
      .ok (some ⟨s, ⟨[some (.payload (.text "hi")), some (.topic "a/b/c"), none,
        some (.params ["b", "/c"])]⟩⟩) := by
    rw [prepare_found found rfl, declared]
    simp only [Declaration.gappy, fillSlots, tail, body]
    rfl
  obtain ⟨slots, call, filled, reordered⟩ := called (by
    rw [declared]
    rintro p mem cause ⟨kind, failed⟩
    simp only [Declaration.gappy, List.mem_cons, List.not_mem_nil, or_false] at mem
    obtain rfl | rfl | rfl := mem
    · cases kind
    · rw [declared] at failed
      cases text.symm.trans failed
    · cases kind)
  have same := Option.some.inj (Except.ok.inj (call.symm.trans evaluated))
  obtain rfl := Args.mk.inj (Call.mk.inj same).2
  have backwards := reordered reversed Declaration.gappy.parameters.reverse
    (declared ▸ List.reverse_perm _) rfl rfl found'
  exact ⟨⟨s, call, filled, _, backwards⟩, rejected, asked⟩

end Dispatcher
end MqttRouting
