import MqttRouting.Transport

/-!
Which acknowledgement belongs to which subscribe request. The client numbers a request
only when it leaves, and requests leave in the order in which they came; so a request
waits in a queue for its packet id, and then under the id for its acknowledgement.
-/

namespace MqttRouting

/-- What the broker says to one topic of a request. -/
inductive ReasonCode where
  | granted (qos : Qos)
  | refused
  deriving DecidableEq

structure SubAck where
  packetId : Nat
  codes : List ReasonCode

/-- All topics were granted, and there was one. -/
def SubAck.success (ack : SubAck) : Bool :=
  !ack.codes.isEmpty && ack.codes.all (· != .refused)

structure Tracker where
  /-- The wire topics of requests that have not left yet, oldest first. -/
  queued : List String := []
  /-- The wire topics of unacknowledged requests by packet id. -/
  inFlight : List (Nat × String) := []
  deriving DecidableEq

namespace Tracker

def queue (t : Tracker) (wireTopic : String) : Tracker :=
  { t with queued := t.queued ++ [wireTopic] }

/-- Takes back the latest request. -/
def cancelLast (t : Tracker) : Tracker := { t with queued := t.queued.dropLast }

/-- The oldest request leaves. A request that was under the same packet id is lost. -/
def outgoing (t : Tracker) (packetId : Nat) : List Notice × Tracker :=
  match t.queued with
  | [] => ([.foreignRequest packetId], t)
  | wireTopic :: rest =>
    ([], ⟨rest, (packetId, wireTopic) :: t.inFlight.filter (·.1 ≠ packetId)⟩)

/-- The request that an acknowledgement belongs to, with its success. -/
def acknowledge (t : Tracker) (ack : SubAck) : Option (String × Bool) × List Notice × Tracker :=
  match t.inFlight.lookup ack.packetId with
  | none => (none, [.unknownAck ack.packetId], t)
  | some wireTopic =>
    (some (wireTopic, ack.success), [],
      { t with inFlight := t.inFlight.filter (·.1 ≠ ack.packetId) })

/-- Gives up the requests whose acknowledgements went with the session. Those that have not
left yet stay. -/
def reset (t : Tracker) : List Notice × Tracker :=
  (t.inFlight.map fun e => .lostRequest e.2, { t with inFlight := [] })

def pending (t : Tracker) : Nat := t.queued.length + t.inFlight.length

end Tracker
end MqttRouting
