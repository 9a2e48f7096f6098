import MqttRouting.Json.Printer

/-!
Decoded payloads.
-/

namespace MqttRouting

inductive Payload where
  | raw (bytes : List UInt8)
  | text (s : String)
  | json (v : Json.Value)
  /-- A value of the caller's own making, known here by a number only. -/
  | custom (value : Nat)

namespace Payload

def bytes? : Payload → Option (List UInt8)
  | .raw bytes => some bytes
  | _ => none

def text? : Payload → Option String
  | .text s => some s
  | _ => none

def json? : Payload → Option Json.Value
  | .json v => some v
  | _ => none

def custom? : Payload → Option Nat
  | .custom value => some value
  | _ => none

def dump : Payload → String
  | .raw bytes => "Raw(" ++ Text.quoteBytes bytes ++ ")"
  | .text s => "Text(" ++ Text.quote s ++ ")"
  | .json v => "Json(" ++ v.dump ++ ")"
  | .custom _ => "Custom(..)"

end Payload
end MqttRouting
