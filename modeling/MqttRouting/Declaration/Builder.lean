import MqttRouting.Declaration

/-!
Building declarations call by call. Topics and parameters add up; every other part
holds what it was set to last. What was collected is checked once, at the end.
-/

namespace MqttRouting

variable {ν : Type}

structure Builder (ν : Type) where
  topics : List String := []
  queue : Option Bool := none
  share : Option String := none
  transform : Option TransformSpec := none
  qos : Option Qos := none
  parameters : List Parameter := []
  handler : Option (Handler ν) := none
  owner : String := "<anonymous>"

namespace Builder

inductive Call (ν : Type) where
  | alsoTopic (template : String)
  | queue (on : Bool)
  | share (group : String)
  /-- Turns sharing off even where it is on in general. -/
  | noShare
  | transform (spec : TransformSpec)
  | qos (q : Qos)
  | owner (name : String)
  | param (p : Parameter)
  | handler (h : Handler ν)
  /-- A handler of an object, whose type becomes the owner. -/
  | boundHandler (owner : String) (h : Handler ν)

namespace Call

def payloadAt (position : Nat) : Call ν := .param ⟨position, .payload, none⟩

def payloadWith (position : Nat) (spec : TransformSpec) : Call ν :=
  .param ⟨position, .payload, some spec⟩

def topicAt (position : Nat) : Call ν := .param ⟨position, .topic, none⟩

def packetAt (position : Nat) : Call ν := .param ⟨position, .packet, none⟩

def paramsAt (position : Nat) : Call ν := .param ⟨position, .params, none⟩

end Call

def apply (b : Builder ν) : Call ν → Builder ν
  | .alsoTopic template => { b with topics := b.topics ++ [template] }
  | .queue on => { b with queue := some on }
  | .share group => { b with share := some group }
  | .noShare => { b with share := some "" }
  | .transform spec => { b with transform := some spec }
  | .qos q => { b with qos := some q }
  | .owner name => { b with owner := name }
  | .param p => { b with parameters := b.parameters ++ [p] }
  | .handler h => { b with handler := some h }
  | .boundHandler owner h => { b with owner := owner, handler := some h }

def run (calls : List (Call ν)) : Builder ν := calls.foldl apply {}

/-- The first position that occurs again, at the place where it does. -/
def firstRepeated (seen : List Nat) : List Nat → Option Nat
  | [] => none
  | n :: rest => if n ∈ seen then some n else firstRepeated (n :: seen) rest

/-- Of several faults the first in this order is reported: no topic, a position too high,
a position used twice, no handler. -/
def build (b : Builder ν) : Except DeclarationError (Declaration ν) :=
  if b.topics.isEmpty then .error (.noTopics b.owner)
  else
    let positions := b.parameters.map Parameter.position
    match positions.find? (maxPosition < ·) with
    | some position => .error (.positionOutOfRange b.owner position)
    | none =>
      match firstRepeated [] positions with
      | some position => .error (.duplicatePosition b.owner position)
      | none =>
        match b.handler with
        | none => .error (.missingHandler b.owner)
        | some handler =>
          .ok { b with handler }

end Builder

/-- The declaration that a sequence of calls on a new builder makes. -/
def Declaration.ofCalls (calls : List (Builder.Call ν)) : Except DeclarationError (Declaration ν) :=
  (Builder.run calls).build

end MqttRouting
