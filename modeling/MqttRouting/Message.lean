/-!
Messages as the transport delivers them, and what the dispatcher hears from it.
-/

namespace MqttRouting

inductive Qos where
  | atMostOnce
  | atLeastOnce
  | exactlyOnce
  deriving DecidableEq, Repr

namespace Qos

def ofLevel? : Nat → Option Qos
  | 0 => some .atMostOnce
  | 1 => some .atLeastOnce
  | 2 => some .exactlyOnce
  | _ => none

def level : Qos → Nat
  | .atMostOnce => 0
  | .atLeastOnce => 1
  | .exactlyOnce => 2

def name : Qos → String
  | .atMostOnce => "AtMostOnce"
  | .atLeastOnce => "AtLeastOnce"
  | .exactlyOnce => "ExactlyOnce"

theorem ofLevel?_level (q : Qos) : ofLevel? q.level = some q := by cases q <;> rfl

theorem ofLevel?_eq_some_iff {n : Nat} {q : Qos} : ofLevel? n = some q ↔ n = q.level := by
  constructor
  · intro h
    match n with
    | 0 | 1 | 2 =>
      cases h
      rfl
    | n + 3 => cases h
  · rintro rfl
    exact q.ofLevel?_level

end Qos

/-- The protocol packet of a published message. -/
structure Packet where
  topic : String
  qos : Qos := .atMostOnce
  retain : Bool := false
  duplicate : Bool := false
  packetId : Nat := 0
  payload : List UInt8 := []
  deriving DecidableEq

structure Message where
  topic : String
  payload : List UInt8
  packet : Packet
  deriving DecidableEq

namespace Message

/-- A message that no packet came with gets a plain one. -/
def plain (topic : String) (payload : List UInt8) : Message :=
  ⟨topic, payload, { topic, payload }⟩

def ofPacket (packet : Packet) : Message := ⟨packet.topic, packet.payload, packet⟩

end Message

/-- What the transport reports. -/
inductive Event where
  | connected (sessionPresent : Bool)
  | message (m : Message)
  | subscribeResult (wireTopic : String) (success : Bool)
  deriving DecidableEq

end MqttRouting
