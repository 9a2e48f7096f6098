import MqttRouting.Client.Options
import MqttRouting.Dispatcher

/-!
The configuration of a router.
-/

namespace MqttRouting

structure Config where
  connection : Options
  /-- How many requests the event loop may have waiting. -/
  requestCapacity : Nat := 10
  /-- How many commands the dispatcher may have waiting; one at least. -/
  commandCapacity : Nat := 100
  /-- How long the first answer of the broker may take, in milliseconds. -/
  timeout : Nat := 5000
  settings : Settings := {}
  transforms : Transforms := {}
  hook : Option Hook := none

namespace Config

def ofUrl (text : String) : Except OptionError Config :=
  (Options.ofUrl text).map fun connection => { connection }

def localhost (clientId : String) : Config := { connection := .localhost clientId }

end Config
end MqttRouting
