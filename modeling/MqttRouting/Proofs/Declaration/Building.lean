import Mathlib.Data.List.Induction
import MqttRouting.Proofs.Declaration

/-!
Builders told from their calls. Each part of a builder is what the calls for it say: all of them
in order where they add up, the last of them where they do not. A declaration comes of it if
nothing is wrong; else the first fault, in the order in which a builder looks for them, is what
comes.
-/

namespace MqttRouting

variable {ν : Type}

namespace Builder

/-! What calls set. -/

namespace Call

def topic? : Call ν → Option String
  | .alsoTopic template => some template
  | _ => none

def parameter? : Call ν → Option Parameter
  | .param p => some p
  | _ => none

def queue? : Call ν → Option Bool
  | .queue on => some on
  | _ => none

/-- The empty group turns sharing off. -/
def share? : Call ν → Option String
  | .share group => some group
  | .noShare => some ""
  | _ => none

def transform? : Call ν → Option TransformSpec
  | .transform spec => some spec
  | _ => none

def qos? : Call ν → Option Qos
  | .qos q => some q
  | _ => none

def handler? : Call ν → Option (Handler ν)
  | .handler h | .boundHandler _ h => some h
  | _ => none

def owner? : Call ν → Option String
  | .owner name | .boundHandler name _ => some name
  | _ => none

end Call

/-- What the last of the calls that set something sets it to. -/
def last? {α : Type} (part : Call ν → Option α) (calls : List (Call ν)) : Option α :=
  (calls.filterMap part).getLast?

/-- The parts of a builder, each from the calls that are about it. -/
def collected (calls : List (Call ν)) : Builder ν where
  topics := calls.filterMap Call.topic?
  queue := last? Call.queue? calls
  share := last? Call.share? calls
  transform := last? Call.transform? calls
  qos := last? Call.qos? calls
  parameters := calls.filterMap Call.parameter?
  handler := last? Call.handler? calls
  owner := (last? Call.owner? calls).getD "<anonymous>"

theorem last?_concat {α : Type} (part : Call ν → Option α) (calls : List (Call ν))
    (call : Call ν) : last? part (calls ++ [call]) = (part call).or (last? part calls) := by
  cases said : part call <;> simp [last?, said]

/-- One more call changes the parts that it is about. -/
theorem collected_concat (calls : List (Call ν)) (call : Call ν) :
    collected (calls ++ [call]) = (collected calls).apply call := by
  cases call <;> simp [collected, apply, last?_concat, Call.topic?, Call.parameter?, Call.queue?,
    Call.share?, Call.transform?, Call.qos?, Call.handler?, Call.owner?]

theorem run_eq_collected (calls : List (Call ν)) : run calls = collected calls := by
  induction calls using List.reverseRecOn with
  | nil => rfl
  | append_singleton calls call ih => rw [collected_concat, ← ih, run, List.foldl_append]; rfl

end Builder

namespace Declaration

open Builder (collected)

theorem ofCalls_eq (calls : List (Builder.Call ν)) : ofCalls calls = (collected calls).build := by
  rw [ofCalls, Builder.run_eq_collected]

/-- A sequence of calls makes a declaration exactly if what it collects is complete; else the first
fault comes of it, in the name of the last owner. The declaration is what was collected, with at
most 64 slots and one for each position. -/
theorem ofCalls_checks (calls : List (Builder.Call ν)) :
    ((∃ d, ofCalls calls = .ok d) ↔ ∃ handler, (collected calls).Complete handler) ∧
      (∀ e, ofCalls calls = .error e ↔ (collected calls).Fault e) ∧
      ∀ d, ofCalls calls = .ok d →
        (∃ handler, (collected calls).handler = some handler ∧
          d = { collected calls with handler }) ∧
        d.arity ≤ 64 ∧ ∀ p ∈ d.parameters, p.position < d.arity := by
  rw [ofCalls_eq]
  refine ⟨?_, fun e => Builder.build_eq_error_iff, fun d built => ?_⟩
  · constructor
    · rintro ⟨d, built⟩
      obtain ⟨handler, complete, _⟩ := Builder.build_eq_ok_iff.mp built
      exact ⟨handler, complete⟩
    · rintro ⟨handler, complete⟩
      exact ⟨_, complete.build_eq⟩
  · have few : d.arity ≤ 64 := by
      apply arity_le
      intro p mem
      have low := (Builder.build_ok built).2 p mem
      exact Nat.lt_succ_of_le low
    obtain ⟨handler, complete, same⟩ := Builder.build_eq_ok_iff.mp built
    exact ⟨⟨handler, complete.handled, same⟩, few, fun p => position_lt_arity⟩

/-- The largest position there is, two owners, and sharing turned on and off again. -/
theorem last_owner_answers :
    let calls : List (Builder.Call Unit) := [.alsoTopic "a", .share "crew",
      .boundHandler "Hall" .idle, .noShare, .owner "porch", Builder.Call.topicAt 63]
    (∃ d, ofCalls calls = .ok d ∧ d.owner = "porch" ∧ d.share = some "" ∧ d.arity ≤ 64 ∧
        ∀ p ∈ d.parameters, p.position < d.arity) ∧
      ofCalls (calls ++ [Builder.Call.paramsAt 63, Builder.Call.topicAt 0xffffffffffffffff]) =
        .error (.positionOutOfRange "porch" 0xffffffffffffffff) := by
  intro calls
  have built : ofCalls calls = .ok
      { topics := ["a"], share := some "", parameters := [⟨63, .topic, none⟩], handler := .idle,
        owner := "porch" } := rfl
  obtain ⟨_, few, slots⟩ := (ofCalls_checks calls).2.2 _ built
  have tooHigh : (collected (calls ++ [Builder.Call.paramsAt 63,
      Builder.Call.topicAt 0xffffffffffffffff])).positions = [63, 63] ++ 0xffffffffffffffff :: [] :=
    rfl
  refine ⟨⟨_, built, rfl, rfl, few, slots⟩, ((ofCalls_checks _).2.1 _).mpr ?_⟩
  exact .tooHigh (List.cons_ne_nil "a" []) tooHigh (by decide) (by decide)

end Declaration
end MqttRouting
