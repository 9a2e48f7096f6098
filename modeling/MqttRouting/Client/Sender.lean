import MqttRouting.Transport.Tracker

/-!
The sending side of a client: requests are tracked and put into a queue, out of which
the event loop of the client takes them.
-/

namespace MqttRouting

/-- What is sent to the broker on request. -/
inductive Outbound where
  | subscribe (r : Request)
  | disconnect
  deriving DecidableEq

structure Sender where
  tracker : Tracker := {}
  requests : List Outbound := []
  /-- Whether the event loop is there to take requests. -/
  attached : Bool := true

namespace Sender

def detachedReason : String := "Failed to send mqtt requests to eventloop"

def track (sender : Sender) (r : Request) : Sender :=
  { sender with tracker := sender.tracker.queue r.wireTopic }

/-- Queues a request that is tracked already, or takes it back. -/
def take (sender : Sender) (r : Request) : Answer × Sender :=
  if sender.attached then
    (none, { sender with requests := sender.requests ++ [.subscribe r] })
  else
    (some (.client r.wireTopic detachedReason),
      { sender with tracker := sender.tracker.cancelLast })

/-- A request is tracked before it is queued. -/
def transport : Transport Sender := fun sender r => (sender.track r).take r

/-- Drops the event loop, and the requests that it has not taken with it. -/
def detach (sender : Sender) : Sender := { sender with requests := [], attached := false }

end Sender
end MqttRouting
