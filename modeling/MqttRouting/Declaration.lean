import MqttRouting.Handler.Task
import MqttRouting.Payload.Transform
import MqttRouting.Topic.PatternError
import MqttRouting.Topic.Policy

/-!
Declarations: what one handler wants to hear and in which form. A declaration names
its topic templates, how to subscribe to them, and what the handler gets at each
argument position.
-/

namespace MqttRouting

inductive ParameterKind where
  | payload
  | topic
  | packet
  | params
  deriving DecidableEq, Repr

def ParameterKind.name : ParameterKind → String
  | .payload => "Payload"
  | .topic => "Topic"
  | .packet => "Packet"
  | .params => "Params"

structure Parameter where
  position : Nat
  kind : ParameterKind
  /-- Goes before the transform of the declaration. -/
  transform : Option TransformSpec := none

structure Declaration (ν : Type) where
  topics : List String
  queue : Option Bool := none
  share : Option String := none
  transform : Option TransformSpec := none
  qos : Option Qos := none
  parameters : List Parameter := []
  handler : Handler ν
  owner : String

inductive DeclarationError where
  | noTopics (owner : String)
  | duplicatePosition (owner : String) (position : Nat)
  | positionOutOfRange (owner : String) (position : Nat)
  | missingHandler (owner : String)
  /-- A template, with its placeholders replaced, is no topic. -/
  | pattern (owner template : String) (cause : Topic.PatternError)
  deriving DecidableEq

/-- The highest argument position. -/
def maxPosition : Nat := 63

def DeclarationError.message : DeclarationError → String
  | .noTopics owner => "Declaration '" ++ owner ++ "' has no topic template"
  | .duplicatePosition owner position =>
    "Declaration '" ++ owner ++ "' declares position " ++ toString position ++ " twice"
  | .positionOutOfRange owner position =>
    "Declaration '" ++ owner ++ "' uses position " ++ toString position ++
      ", the maximum is " ++ toString maxPosition
  | .missingHandler owner => "Declaration '" ++ owner ++ "' has no handler"
  | .pattern owner template cause =>
    "Declaration '" ++ owner ++ "' has invalid topic '" ++ template ++ "': " ++ cause.message

namespace Declaration

variable {ν : Type}

/-- The number of argument slots: one more than the highest position. -/
def arity (d : Declaration ν) : Nat :=
  d.parameters.foldl (fun n p => max n (p.position + 1)) 0

def payloadTransform (d : Declaration ν) (p : Parameter) : Option TransformSpec :=
  p.transform.or d.transform

/-- What is not set is taken from the general policy; an empty share group turns sharing
off. -/
def policy (d : Declaration ν) (general : Topic.Policy) : Topic.Policy where
  queue := d.queue.getD general.queue
  share := d.share.or general.share

end Declaration

/-! Dumps. -/

def dumpSpec (spec : Option TransformSpec) : String := Text.optional (spec.map TransformSpec.dump)

def Parameter.dump (p : Parameter) : String :=
  "ParameterSpec \x7b position: " ++ toString p.position ++ ", kind: " ++ p.kind.name ++
    ", transform: " ++ dumpSpec p.transform ++ " \x7d"

def Declaration.dump {ν : Type} (d : Declaration ν) : String :=
  "SubscriptionDeclaration \x7b topics: " ++ Text.bracketed (d.topics.map Text.quote) ++
    ", queue: " ++ Text.optional (d.queue.map fun on => if on then "true" else "false") ++
    ", share: " ++ Text.optional (d.share.map Text.quote) ++
    ", transform: " ++ dumpSpec d.transform ++
    ", qos: " ++ Text.optional (d.qos.map Qos.name) ++
    ", parameters: " ++ Text.bracketed (d.parameters.map Parameter.dump) ++
    ", owner: " ++ Text.quote d.owner ++ ", .. \x7d"

end MqttRouting
