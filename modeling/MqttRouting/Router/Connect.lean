import MqttRouting.Router.Config
import MqttRouting.Router.Run

/-!
Connecting. The configuration and the declarations are checked before the network is
touched; then one answer of the broker decides.
-/

namespace MqttRouting

/-- What comes of an attempt to reach the broker. -/
inductive Reception where
  | answered (code : ConnectCode) (sessionPresent : Bool)
  | closed
  | unreachable
  /-- No answer in time. -/
  | silent
  deriving DecidableEq

namespace Router

variable {ν : Type} [Topic.Engine]

def checkConfig (c : Config) : Except RouterError Unit :=
  if c.commandCapacity = 0 then
    .error (.value "command_channel_capacity must be greater than 0")
  else .ok ()

/-- Whether the broker has kept the session, if there is a connection. -/
def establish (timeout : Nat) : Reception → Except ConnectError Bool
  | .answered .success sessionPresent => .ok sessionPresent
  | .answered code _ => .error (.network (.refused code))
  | .closed => .error (.network .closedByPeer)
  | .unreachable => .error (.network .unreachable)
  | .silent => .error (.timeout timeout)

/-- A session at its start: the worker has been told about the connection. -/
def start (c : Config) (d : Dispatcher ν) (sessionPresent : Bool) : Session ν :=
  let s : Session ν :=
    { limits := ⟨c.commandCapacity, c.requestCapacity⟩
      dispatcher := d
      commands := [⟨.event (.connected sessionPresent), none⟩]
      loop := { highestPacketId := c.connection.inflight } }
  s.note [.established sessionPresent]

def connect (c : Config) (declarations : List (Declaration ν)) (reception : Reception) :
    Except RouterError (Session ν) := do
  checkConfig c
  let d ← (Dispatcher.ofDeclarations c.settings c.transforms c.hook declarations).mapError
    .declaration
  let sessionPresent ← (establish c.timeout reception).mapError .connection
  return start c d sessionPresent

end Router
end MqttRouting
