import MqttRouting.Client.Options
import MqttRouting.Declaration
import MqttRouting.Settings

/-!
What can go wrong around a router.
-/

namespace MqttRouting

/-- The answer of the broker to a connection attempt. -/
inductive ConnectCode where
  | success
  | refusedProtocolVersion
  | badClientId
  | serviceUnavailable
  | badUserNamePassword
  | notAuthorized
  deriving DecidableEq, Repr

namespace ConnectCode

def ofNumber? : Nat → Option ConnectCode
  | 0 => some .success
  | 1 => some .refusedProtocolVersion
  | 2 => some .badClientId
  | 3 => some .serviceUnavailable
  | 4 => some .badUserNamePassword
  | 5 => some .notAuthorized
  | _ => none

def name : ConnectCode → String
  | .success => "Success"
  | .refusedProtocolVersion => "RefusedProtocolVersion"
  | .badClientId => "BadClientId"
  | .serviceUnavailable => "ServiceUnavailable"
  | .badUserNamePassword => "BadUserNamePassword"
  | .notAuthorized => "NotAuthorized"

end ConnectCode

/-- Why there is no connection. -/
inductive NetworkFault where
  | unreachable
  | closedByPeer
  | refused (code : ConnectCode)
  deriving DecidableEq

def NetworkFault.message : NetworkFault → String
  | .unreachable => "I/O: Network is unreachable (os error 101)"
  | .closedByPeer => "I/O: connection closed by peer"
  | .refused code => "Connection refused, return code: `" ++ code.name ++ "`"

inductive ConnectError where
  | network (fault : NetworkFault)
  | rejected (code : ConnectCode)
  /-- No answer within so many milliseconds. -/
  | timeout (limit : Nat)
  deriving DecidableEq

def ConnectError.message : ConnectError → String
  | .network fault => "Network connection failed: " ++ fault.message
  | .rejected code => "Broker rejected connection: " ++ code.name
  | .timeout limit => "Connection establishment timed out after " ++ toString limit ++ "ms"

/-- Why the dispatcher did not answer a command. -/
inductive SendError where
  | channelClosed
  | responseLost
  deriving DecidableEq

def SendError.message : SendError → String
  | .channelClosed => "Channel has been closed"
  | .responseLost => "Response from dispatcher was lost"

inductive RouterError where
  | configuration (e : OptionError)
  | value (problem : String)
  | settings (e : SettingsFileError)
  | declaration (e : DeclarationError)
  | pattern (e : Topic.PatternError)
  | dispatcher (e : SendError)
  | connection (e : ConnectError)

namespace RouterError

/-- The message of the error inside, if there is one. -/
def source? : RouterError → Option String
  | .configuration e => some e.message
  | .value _ => none
  | .settings e => some e.message
  | .declaration e => some e.message
  | .pattern e => some e.message
  | .dispatcher e => some e.message
  | .connection e => some e.message

def message : RouterError → String
  | .configuration e => "Configuration error: " ++ e.message
  | .value problem => "Invalid configuration value: " ++ problem
  | .settings e => "Settings error: " ++ e.message
  | .declaration e => "Declaration error: " ++ e.message
  | .pattern e => "Topic pattern error: " ++ e.message
  | .dispatcher e => "Dispatcher unavailable: " ++ e.message
  | .connection e => "Failed to establish connection: " ++ e.message

end RouterError
end MqttRouting
