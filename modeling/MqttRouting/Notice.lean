import MqttRouting.Json.Value
import MqttRouting.Message

/-!
Notices: what the parts of a router report about their work, each with a level, a
message and fields.
-/

namespace MqttRouting

inductive Level where
  | trace
  | debug
  | info
  | warn
  | error
  deriving DecidableEq, Repr

def Level.name : Level → String
  | .trace => "TRACE"
  | .debug => "DEBUG"
  | .info => "INFO"
  | .warn => "WARN"
  | .error => "ERROR"

inductive Notice where
  -- Registration
  | registering (reconnect sessionPresent : Bool) (declarations : Nat)
  | sessionLost
  | requested (wireTopic : String) (qos : Qos)
  | notRequested (wireTopic reason : String)
  | granted (wireTopic : String)
  | denied (wireTopic : String)
  -- Messages
  | early (topic : String)
  | unmatched (topic : String)
  | dropped (topic reason : String)
  | handlerFailed (topic wireTopic owner reason : String)
  | handlerCrashed
  -- Acknowledgements
  | foreignRequest (packetId : Nat)
  | unknownAck (packetId : Nat)
  | lostRequest (wireTopic : String)
  -- The dispatching task
  | stopSignal
  | signalUnheard
  | commandsClosed
  | leaving
  | draining (pending : Nat)
  | stillRunning (limit : Nat)
  -- The connection
  | received (topic : String) (size : Nat)
  | established (sessionPresent : Bool)
  | reconnected (sessionPresent : Bool)
  | disconnected
  | peerDisconnected
  | noDispatcher (reason : String)
  | loopEnded
  | stopped
  | notDisconnected (reason : String)
  | closed
  | released
  deriving DecidableEq

namespace Notice

def level : Notice → Level
  | .unmatched _ => .trace
  | .requested _ _ | .granted _ | .foreignRequest _ | .draining _ | .received _ _
  | .established _ | .stopped => .debug
  | .registering _ _ _ | .sessionLost | .stopSignal | .commandsClosed | .leaving
  | .reconnected _ | .disconnected | .peerDisconnected | .loopEnded | .closed => .info
  | .early _ | .unknownAck _ | .lostRequest _ | .stillRunning _
  | .signalUnheard | .notDisconnected _ | .released => .warn
  | .notRequested _ _ | .denied _ | .dropped _ _ | .handlerFailed _ _ _ _ | .handlerCrashed
  | .noDispatcher _ => .error

def message : Notice → String
  | .registering _ _ _ => "Registering subscriptions"
  | .sessionLost => "Session lost, resubscribing to all wire topics"
  | .requested _ _ => "Subscribe requested"
  | .notRequested _ _ => "Failed to request subscribe"
  | .granted _ => "Subscribe topic success"
  | .denied _ => "Subscribe topic failed"
  | .early _ => "Message received before connect"
  | .unmatched _ => "No subscriber for topic"
  | .dropped _ _ => "Dropping message"
  | .handlerFailed _ _ _ _ => "Handler failed"
  | .handlerCrashed => "Handler panicked"
  | .foreignRequest _ => "Outgoing subscribe not issued by the dispatcher"
  | .unknownAck _ => "SubAck for unknown subscribe request"
  | .lostRequest _ => "Subscribe lost with the previous session"
  | .stopSignal => "DispatcherActor: Shutdown signal received"
  | .signalUnheard => "DispatcherController: Shutdown signal already sent"
  | .commandsClosed => "DispatcherActor: Command channel closed, exiting"
  | .leaving => "DispatcherActor: Exiting run loop"
  | .draining _ => "Waiting for in-flight handlers"
  | .stillRunning _ => "DispatcherActor: handlers still running at shutdown"
  | .received _ _ => "Received MQTT message"
  | .established _ => "MQTT connection established successfully"
  | .reconnected _ => "MQTT reconnected"
  | .disconnected => "Sent MQTT Disconnect packet to server"
  | .peerDisconnected => "Received MQTT Disconnect packet from server"
  | .noDispatcher _ => "Dispatcher stopped, terminating event loop"
  | .loopEnded => "MQTT event loop terminated"
  | .stopped => "Dispatcher stopped, disconnecting"
  | .notDisconnected _ => "Could not queue Disconnect"
  | .closed => "Router connection closed"
  | .released =>
    "RouterConnection released while running; dispatcher and event loop are left detached"

open Json (Value)

def count (n : Nat) : Value := .number (.whole n)

def fields : Notice → List (String × Value)
  | .registering reconnect sessionPresent declarations =>
    [("reconnect", .bool reconnect), ("session_present", .bool sessionPresent),
      ("declarations", count declarations)]
  | .requested wireTopic qos => [("wire_topic", .text wireTopic), ("qos", .text qos.name)]
  | .notRequested wireTopic reason => [("wire_topic", .text wireTopic), ("error", .text reason)]
  | .granted wireTopic | .denied wireTopic | .lostRequest wireTopic =>
    [("wire_topic", .text wireTopic)]
  | .early topic | .unmatched topic => [("topic", .text topic)]
  | .dropped topic reason => [("topic", .text topic), ("error", .text reason)]
  | .handlerFailed topic wireTopic owner reason =>
    [("topic", .text topic), ("wire_topic", .text wireTopic), ("owner", .text owner),
      ("error", .text reason)]
  | .foreignRequest packetId | .unknownAck packetId => [("pkid", count packetId)]
  | .draining pending => [("pending", count pending)]
  | .stillRunning limit => [("timeout_ms", count limit)]
  | .received topic size => [("topic", .text topic), ("payload_size", count size)]
  | .established sessionPresent | .reconnected sessionPresent =>
    [("session_present", .bool sessionPresent)]
  | .noDispatcher reason | .notDisconnected reason => [("error", .text reason)]
  | .sessionLost | .handlerCrashed | .stopSignal | .signalUnheard | .commandsClosed
  | .leaving | .disconnected | .peerDisconnected | .loopEnded | .stopped
  | .closed | .released => []

/-- A notice as one JSON object. -/
def toValue (n : Notice) : Value :=
  .object <| Dictionary.ofList <|
    [("level", .text n.level.name), ("message", .text n.message)] ++ n.fields

end Notice
end MqttRouting
