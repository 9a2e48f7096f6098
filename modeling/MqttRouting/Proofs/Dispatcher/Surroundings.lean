import Mathlib
import MqttRouting.Dispatcher

/-!
Preparing a call where asking has effects. A hook or a decoder may change the surroundings
that it is asked in, so it matters who is asked and when. What comes out is the call of
`prepare` all the same; and surroundings that only write down who was asked tell the order.
-/

namespace MqttRouting

variable {σ ν : Type}

/-- How hooks and decoders are asked in surroundings with a state. -/
structure Surroundings (σ : Type) where
  check : Hook → Message → σ → Except HandlerError Unit × σ
  decode : Decoder → List UInt8 → σ → Except TransformError Payload × σ

/-- Whatever asking does besides, the answers are those of the hooks and the decoders. -/
structure Surroundings.Honest (a : Surroundings σ) : Prop where
  check (hook : Hook) (m : Message) (state : σ) : (a.check hook m state).1 = hook m
  decode (decoder : Decoder) (payload : List UInt8) (state : σ) :
    (a.decode decoder payload state).1 = decoder payload

/-- Somebody who is asked. -/
inductive Inquiry where
  | hook (check : Hook) (m : Message)
  | decoder (decoder : Decoder) (payload : List UInt8)

/-- Surroundings in which all inquiries are written down. -/
def Surroundings.recorder : Surroundings (List Inquiry) where
  check hook m log := (hook m, log ++ [.hook hook m])
  decode decoder payload log := (decoder payload, log ++ [.decoder decoder payload])

theorem Surroundings.recorder_honest : recorder.Honest := ⟨fun _ _ _ => rfl, fun _ _ _ => rfl⟩

namespace Dispatcher

def argumentIn (a : Surroundings σ) (d : Dispatcher ν) (s : Subscriber ν) (m : Message)
    (p : Parameter) (state : σ) : Except DispatchError Arg × σ :=
  match p.kind with
  | .payload =>
    match d.transforms.resolve (s.declaration.payloadTransform p) with
    | .error cause => (.error (.transform m.topic cause), state)
    | .ok decoder =>
      match a.decode decoder m.payload state with
      | (.ok value, state) => (.ok (.payload value), state)
      | (.error cause, state) => (.error (.transform m.topic cause), state)
  | .topic => (.ok (.topic m.topic), state)
  | .packet => (.ok (.packet m.packet), state)
  | .params => (.ok (.params (s.captures m.topic)), state)

def fillSlotsIn (a : Surroundings σ) (d : Dispatcher ν) (s : Subscriber ν) (m : Message) :
    List Parameter → List (Option Arg) → σ → Except DispatchError (List (Option Arg)) × σ
  | [], slots, state => (.ok slots, state)
  | p :: rest, slots, state =>
    match d.argumentIn a s m p state with
    | (.error e, state) => (.error e, state)
    | (.ok arg, state) => fillSlotsIn a d s m rest (slots.set p.position (some arg)) state

def checkHookIn (a : Surroundings σ) (d : Dispatcher ν) (m : Message) (state : σ) :
    Except DispatchError Unit × σ :=
  match d.hook with
  | none => (.ok (), state)
  | some hook =>
    let (verdict, state) := a.check hook m state
    (verdict.mapError (.beforeHandle m.topic), state)

/-- The call for a message, with the state that asking for it leads to. -/
def prepareIn (a : Surroundings σ) (d : Dispatcher ν) (m : Message) (state : σ) :
    Except DispatchError (Option (Call ν)) × σ :=
  match d.registry.findMatch? m.topic with
  | none => (.ok none, state)
  | some s =>
    match d.checkHookIn a m state with
    | (.error e, state) => (.error e, state)
    | (.ok (), state) =>
      match d.fillSlotsIn a s m s.declaration.parameters
          (List.replicate s.declaration.arity none) state with
      | (.error e, state) => (.error e, state)
      | (.ok slots, state) => (.ok (some ⟨s, ⟨slots⟩⟩), state)

/-- All who are asked for a message, in order. -/
def inquiries (d : Dispatcher ν) (m : Message) : List Inquiry :=
  (d.prepareIn .recorder m []).2

/-! The call is the same. -/

section Honest

variable {a : Surroundings σ} (honest : a.Honest) (d : Dispatcher ν) (s : Subscriber ν)
  (m : Message)

include honest

theorem argumentIn_result (p : Parameter) (state : σ) :
    (d.argumentIn a s m p state).1 = d.argument s m p := by
  unfold argumentIn argument Transforms.decode
  cases p.kind with
  | payload =>
      cases d.transforms.resolve (s.declaration.payloadTransform p) with
      | error cause => rfl
      | ok decoder =>
          have answer := honest.decode decoder m.payload state
          dsimp only
          generalize a.decode decoder m.payload state = outcome at answer ⊢
          obtain ⟨result, next⟩ := outcome
          cases result with
          | ok value => simp only [← answer]
          | error cause => simp only [← answer]
  | topic => rfl
  | packet => rfl
  | params => rfl

theorem fillSlotsIn_result (parameters : List Parameter) (slots : List (Option Arg))
    (state : σ) :
    (d.fillSlotsIn a s m parameters slots state).1 = d.fillSlots s m parameters slots := by
  induction parameters generalizing slots state with
  | nil => rfl
  | cons p rest ih =>
      have answer := argumentIn_result honest d s m p state
      rw [fillSlotsIn, fillSlots, ← answer]
      generalize d.argumentIn a s m p state = outcome
      obtain ⟨result, next⟩ := outcome
      cases result with
      | ok arg => exact ih _ next
      | error e => rfl

theorem checkHookIn_result (state : σ) : (d.checkHookIn a m state).1 = d.checkHook m := by
  unfold checkHookIn checkHook
  cases d.hook with
  | none => rfl
  | some hook => exact congrArg (Except.mapError _) (honest.check hook m state)

/-- Surroundings that answer as hooks and decoders do make no difference to the call. -/
theorem prepareIn_result (state : σ) : (d.prepareIn a m state).1 = d.prepare m := by
  unfold prepareIn prepare
  cases d.registry.findMatch? m.topic with
  | none => rfl
  | some s =>
      have verdict := checkHookIn_result honest d m state
      simp only [← verdict]
      generalize d.checkHookIn a m state = outcome
      obtain ⟨result, next⟩ := outcome
      cases result with
      | error e => rfl
      | ok u =>
          have filled := fillSlotsIn_result honest d s m s.declaration.parameters
            (List.replicate s.declaration.arity none) next
          simp only [← filled]
          generalize d.fillSlotsIn a s m _ _ next = outcome
          obtain ⟨result, last⟩ := outcome
          cases result <;> rfl

end Honest

/-- Those who are asked are asked for the call of `prepare`. -/
theorem prepareIn_recorder (d : Dispatcher ν) (m : Message) :
    d.prepareIn .recorder m [] = (d.prepare m, d.inquiries m) :=
  Prod.ext (prepareIn_result Surroundings.recorder_honest d m []) rfl

/-! Who is asked. -/

section Inquiries

variable {d : Dispatcher ν} {s : Subscriber ν} {m : Message}

/-- Only decoders are asked, and only for the payload of the message. -/
def Decodings (m : Message) (log : List Inquiry) : Prop :=
  ∀ inquiry ∈ log, ∃ decoder, inquiry = .decoder decoder m.payload

theorem argumentIn_log (p : Parameter) (log : List Inquiry) :
    ∃ more, Decodings m more ∧ (d.argumentIn .recorder s m p log).2 = log ++ more := by
  unfold argumentIn
  cases p.kind with
  | payload =>
      cases d.transforms.resolve (s.declaration.payloadTransform p) with
      | error cause => exact ⟨[], nofun, (List.append_nil log).symm⟩
      | ok decoder =>
          refine ⟨[.decoder decoder m.payload], by simp [Decodings], ?_⟩
          simp only [Surroundings.recorder]
          cases decoder m.payload <;> rfl
  | topic => exact ⟨[], nofun, (List.append_nil log).symm⟩
  | packet => exact ⟨[], nofun, (List.append_nil log).symm⟩
  | params => exact ⟨[], nofun, (List.append_nil log).symm⟩

theorem fillSlotsIn_log (parameters : List Parameter) (slots : List (Option Arg))
    (log : List Inquiry) :
    ∃ more, Decodings m more ∧
      (d.fillSlotsIn .recorder s m parameters slots log).2 = log ++ more := by
  induction parameters generalizing slots log with
  | nil => exact ⟨[], nofun, (List.append_nil log).symm⟩
  | cons p rest ih =>
      obtain ⟨first, decodes, logged⟩ := argumentIn_log (d := d) (s := s) (m := m) p log
      rw [fillSlotsIn]
      generalize d.argumentIn .recorder s m p log = outcome at logged
      obtain ⟨result, next⟩ := outcome
      cases logged
      cases result with
      | error e => exact ⟨first, decodes, rfl⟩
      | ok arg =>
          obtain ⟨more, others, rest_logged⟩ := ih (slots.set p.position (some arg)) (log ++ first)
          refine ⟨first ++ more, ?_, by rw [← List.append_assoc]; exact rest_logged⟩
          exact List.forall_mem_append.mpr ⟨decodes, others⟩

/-- Without a matching subscriber nobody is asked. -/
theorem inquiries_unmatched (unmatched : d.registry.findMatch? m.topic = none) :
    d.inquiries m = [] := by
  simp only [inquiries, prepareIn, unmatched]

/-- A hook that fails is the last to be asked. -/
theorem inquiries_of_failed_hook (found : d.registry.findMatch? m.topic = some s) {check : Hook}
    {e : HandlerError} (hooked : d.hook = some check) (failed : check m = .error e) :
    d.inquiries m = [.hook check m] := by
  simp [inquiries, prepareIn, found, checkHookIn, hooked, Surroundings.recorder, failed,
    Except.mapError]

/-- The hook is asked first, and behind it only decoders are. -/
theorem inquiries_of_passed_hook (found : d.registry.findMatch? m.topic = some s)
    (passed : ∀ check, d.hook = some check → check m = .ok ()) :
    ∃ decodings, Decodings m decodings ∧
      d.inquiries m = (d.hook.map (Inquiry.hook · m)).toList ++ decodings := by
  have checked : d.checkHookIn .recorder m [] =
      (.ok (), (d.hook.map (Inquiry.hook · m)).toList) := by
    unfold checkHookIn
    cases hooked : d.hook with
    | none => rfl
    | some check => simp [Surroundings.recorder, passed check hooked, Except.mapError]
  obtain ⟨decodings, decodes, logged⟩ := fillSlotsIn_log (d := d) (s := s) (m := m)
    s.declaration.parameters (List.replicate s.declaration.arity none)
    (d.hook.map (Inquiry.hook · m)).toList
  refine ⟨decodings, decodes, ?_⟩
  rw [← logged]
  simp only [inquiries, prepareIn, found, checked]
  generalize d.fillSlotsIn .recorder s m _ _ _ = outcome
  obtain ⟨result, last⟩ := outcome
  cases result <;> rfl

end Inquiries

end Dispatcher
end MqttRouting
