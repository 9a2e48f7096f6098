import MqttRouting.Client.Sender

/-!
The event loop of a client. It sends the requests that wait, with a packet id each, and
turns what comes from the broker into events. While an event cannot be handed on it
does neither.
-/

namespace MqttRouting

/-- What comes from the broker. -/
inductive Incoming where
  | connAck (sessionPresent : Bool)
  | publish (p : Packet)
  | subAck (ack : SubAck)
  | disconnect

/-- What goes to the broker. -/
inductive Outgoing where
  | subscribe (packetId : Nat) (r : Request)
  | disconnect
  deriving DecidableEq

structure EventLoop where
  inbound : List Incoming := []
  sent : List Outgoing := []
  lastPacketId : Nat := 0
  /-- Behind this packet id the first one comes again. -/
  highestPacketId : Nat := 100
  /-- An event that is to be handed on. -/
  held : Option Event := none
  ended : Bool := false

namespace EventLoop

def polling (l : EventLoop) : Bool := !l.ended && l.held.isNone

/-- Messages of the lowest level of service come without a packet id. -/
def onArrival (p : Packet) : Packet :=
  match p.qos with
  | .atMostOnce => { p with packetId := 0 }
  | .atLeastOnce | .exactlyOnce => p

def endNotices (cause : Notice) : List Notice := [cause, .loopEnded]

/-- Ends the loop. The requests that it has not taken are dropped. -/
def finish (l : EventLoop) (sender : Sender) : EventLoop × Sender :=
  ({ l with ended := true, held := none }, sender.detach)

/-- Sends the oldest request. The loop ends with a request to disconnect. -/
def sendRequest? (l : EventLoop) (sender : Sender) :
    Option (List Notice × EventLoop × Sender) :=
  if !l.polling then none
  else
    match sender.requests with
    | [] => none
    | .subscribe r :: rest =>
      let packetId := l.lastPacketId + 1
      let (notices, tracker) := sender.tracker.outgoing packetId
      some (notices,
        { l with
          sent := l.sent ++ [.subscribe packetId r]
          lastPacketId := if packetId = l.highestPacketId then 0 else packetId },
        { sender with tracker, requests := rest })
    | .disconnect :: _ =>
      some (endNotices .disconnected, finish { l with sent := l.sent ++ [.disconnect] } sender)

/-- Takes what came first from the broker. A new connection without the old session gives up
the requests that are unacknowledged. -/
def poll? (l : EventLoop) (sender : Sender) : Option (List Notice × EventLoop × Sender) :=
  if !l.polling then none
  else
    match l.inbound with
    | [] => none
    | first :: rest =>
      let l := { l with inbound := rest }
      match first with
      | .connAck sessionPresent =>
        let (notices, tracker) :=
          if sessionPresent then ([], sender.tracker) else sender.tracker.reset
        some (.reconnected sessionPresent :: notices,
          { l with held := some (.connected sessionPresent) }, { sender with tracker })
      | .publish p =>
        let m := Message.ofPacket (onArrival p)
        some ([.received m.topic m.payload.length], { l with held := some (.message m) }, sender)
      | .subAck ack =>
        let (resolved, notices, tracker) := sender.tracker.acknowledge ack
        some (notices,
          { l with held := resolved.map fun e => .subscribeResult e.1 e.2 },
          { sender with tracker })
      | .disconnect => some (endNotices .peerDisconnected, finish l sender)

end EventLoop
end MqttRouting
