import MqttRouting.Json.Printer
import MqttRouting.Json.Shape
import MqttRouting.Message
import MqttRouting.Topic.Placeholder
import MqttRouting.Topic.Policy

/-!
Settings shared by all declarations. They can be read from JSON data, where absent
fields keep their defaults and unknown ones mean nothing, and overlaid by the fields
of a JSON object.
-/

namespace MqttRouting

structure Settings where
  queue : Bool := false
  share : Option String := none
  bindings : Topic.Bindings := []
  defaultQos : Qos := .atLeastOnce
  /-- Subscribe to everything again when a reconnect finds no session. -/
  resubscribeOnSessionLoss : Bool := false
  deriving DecidableEq

namespace Settings

open Json (Value Cause Fault Shape)

def policy (settings : Settings) : Topic.Policy := ⟨settings.queue, settings.share⟩

def withBinding (settings : Settings) (key value : String) : Settings :=
  { settings with bindings := settings.bindings.insert key value }

def toValue (settings : Settings) : Value :=
  .object <| Dictionary.ofList [
    ("queue", .bool settings.queue),
    ("share", match settings.share with | some group => .text group | none => .null),
    ("variables", .object (settings.bindings.map fun (key, value) => (key, .text value))),
    ("default_qos", .number (.whole settings.defaultQos.level)),
    ("resubscribe_on_session_loss", .bool settings.resubscribeOnSessionLoss)]

/-! Readers of single fields. -/

def flagOf (v : Value) : Except Cause Bool :=
  match v with
  | .bool b => .ok b
  | v => .error (.wrongType (Shape.found v) (Shape.expectation .flag))

def textOf (v : Value) : Except Cause String :=
  match v with
  | .text s => .ok s
  | v => .error (.wrongType (Shape.found v) (Shape.expectation .text))

def shareOf (v : Value) : Except Cause (Option String) :=
  match v with
  | .null => .ok none
  | v => (textOf v).map some

def qosOf (v : Value) : Except Cause Qos :=
  match Shape.cast .byte v with
  | .error cause => .error cause
  | .ok v =>
    let level := match v with
      | .number (.whole n) => n.toNat
      | _ => 0
    match Qos.ofLevel? level with
    | some q => .ok q
    | none => .error (.refused ("invalid QoS level " ++ toString level))

def bindingTexts : List (String × Value) → Except Cause Topic.Bindings
  | [] => .ok []
  | (key, v) :: rest => do
    let value ← textOf v
    let rest ← bindingTexts rest
    .ok ((key, value) :: rest)

def bindingsOf (v : Value) : Except Cause Topic.Bindings :=
  match v with
  | .object entries => bindingTexts entries
  | v => .error (.wrongType (Shape.found v) "a map")

/-- A field that may be absent. -/
def fieldOr {α : Type} (read : Value → Except Cause α) (default : α) (v : Option Value) :
    Except Cause α :=
  match v with
  | some v => read v
  | none => .ok default

/-- The fields in the order of their keys, so that of several bad ones the first by key is
reported. -/
def ofEntries (entries : List (String × Value)) : Except Cause Settings := do
  let field (key : String) := Dictionary.find? key entries
  let base : Settings := {}
  let defaultQos ← fieldOr qosOf base.defaultQos (field "default_qos")
  let queue ← fieldOr flagOf base.queue (field "queue")
  let resubscribeOnSessionLoss ←
    fieldOr flagOf base.resubscribeOnSessionLoss (field "resubscribe_on_session_loss")
  let share ← fieldOr shareOf base.share (field "share")
  let bindings ← fieldOr bindingsOf base.bindings (field "variables")
  .ok { queue, share, bindings, defaultQos, resubscribeOnSessionLoss }

/-- The fields in the order of the structure, as a list that may end early. -/
def ofItems (items : List Value) : Except Cause Settings := do
  let base : Settings := {}
  let queue ← fieldOr flagOf base.queue items[0]?
  let share ← fieldOr shareOf base.share items[1]?
  let bindings ← fieldOr bindingsOf base.bindings items[2]?
  let defaultQos ← fieldOr qosOf base.defaultQos items[3]?
  let resubscribeOnSessionLoss ← fieldOr flagOf base.resubscribeOnSessionLoss items[4]?
  if 5 < items.length then .error (.wrongLength items.length "fewer elements in array")
  else .ok { queue, share, bindings, defaultQos, resubscribeOnSessionLoss }

def ofValue (v : Value) : Except Fault Settings :=
  match v with
  | .object entries => (ofEntries entries).mapError (⟨·, none⟩)
  | .list items => (ofItems items).mapError (⟨·, none⟩)
  | v => .error ⟨.wrongType (Shape.found v) "struct RoutingSettings", none⟩

/-- These settings with the fields of an object in their place. -/
def overlayValue (settings : Settings) (patch : Value) : Except Fault Settings :=
  match settings.toValue, patch with
  | .object base, .object fields => ofValue (.object (Dictionary.overlay base fields))
  | _, other =>
    .error ⟨.refused ("settings overlay must be a JSON object, got " ++ other.toText), none⟩

def overlay (settings : Settings) (text : String) : Except Fault Settings :=
  match Value.ofText text with
  | .ok v => settings.overlayValue v
  | .error fault => .error fault

end Settings

/-! Settings files. -/

/-- What the file system has at a path. -/
inductive FileContents where
  | missing
  | bytes (bytes : List UInt8)

inductive SettingsFileError where
  | unreadable (path reason : String)
  | invalid (path : String) (fault : Json.Fault)

namespace SettingsFileError

def path : SettingsFileError → String
  | .unreadable path _ | .invalid path _ => path

/-- The message, with the path shown as the given text. -/
def describe (shown : String) : SettingsFileError → String
  | .unreadable _ reason => "Failed to read settings file " ++ shown ++ ": " ++ reason
  | .invalid _ fault => "Invalid settings file " ++ shown ++ ": " ++ fault.message

def message (e : SettingsFileError) : String := e.describe (Text.quote e.path)

end SettingsFileError

/-- These settings overlaid by a file. -/
def Settings.overlayFile (settings : Settings) (path : String) (contents : FileContents) :
    Except SettingsFileError Settings :=
  match contents with
  | .missing => .error (.unreadable path "No such file or directory (os error 2)")
  | .bytes bytes =>
    match Text.Utf8.decode bytes with
    | .error _ => .error (.unreadable path "stream did not contain valid UTF-8")
    | .ok chars => (settings.overlay (String.ofList chars)).mapError (.invalid path ·)

end MqttRouting
