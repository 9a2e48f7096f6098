import MqttRouting.Payload.Basic
import MqttRouting.Json.Reader

/-!
Payload transforms. A declaration names a transform by a specification; the table of
named transforms resolves it to a decoder. The three built-in transforms are always
there and cannot be replaced by a name.
-/

namespace MqttRouting

inductive TransformError where
  | invalidUtf8 (fault : Text.Utf8.Fault)
  | invalidJson (fault : Json.Fault)
  | unknownTransform (name : String)
  | custom (details : String)

def TransformError.message : TransformError → String
  | .invalidUtf8 fault => "Payload is not valid UTF-8: " ++ fault.message
  | .invalidJson fault => "Payload is not valid JSON: " ++ fault.message
  | .unknownTransform name => "Unknown payload transform '" ++ name ++ "'"
  | .custom details => "Payload transform failed: " ++ details

/-- A decoder answers from the payload alone. Of decoders that others write it is an assumption that
they keep nothing from one payload to the next, and do nothing but answer. -/
abbrev Decoder := List UInt8 → Except TransformError Payload

namespace Decoder

def raw : Decoder := fun bytes => .ok (.raw bytes)

def readText (bytes : List UInt8) : Except TransformError String :=
  match Text.Utf8.decode bytes with
  | .ok chars => .ok (String.ofList chars)
  | .error fault => .error (.invalidUtf8 fault)

def text : Decoder := fun bytes => (readText bytes).map .text

/-- The text is checked first, so ill-formed bytes are never a fault of the JSON. -/
def json : Decoder := fun bytes =>
  match readText bytes with
  | .error e => .error e
  | .ok _ =>
    match Json.Value.ofBytes bytes with
    | .ok v => .ok (.json v)
    | .error fault => .error (.invalidJson fault)

/-! Decoders for services to register under names of their own. -/

/-- Text with the ASCII letters in upper case. -/
def upperText : Decoder := fun bytes =>
  (readText bytes).map fun s => .text (s.map Char.toUpper)

def reversed : Decoder := fun bytes => .ok (.raw bytes.reverse)

def byteCount : Decoder := fun bytes => .ok (.custom bytes.length)

def refusing : Decoder := fun _ => .error (.custom "decoder refused")

end Decoder

inductive TransformSpec where
  | raw
  | text
  | json
  | named (name : String)
  | custom (decoder : Decoder)

namespace TransformSpec

def ofName (name : String) : TransformSpec :=
  if name = "json" then .json
  else if name = "text" then .text
  else if name = "raw" ∨ name = "" then .raw
  else .named name

def dump : TransformSpec → String
  | .raw => "Raw"
  | .text => "Text"
  | .json => "Json"
  | .named name => "Named(" ++ Text.quote name ++ ")"
  | .custom _ => "Custom(..)"

end TransformSpec

structure Transforms where
  named : Dictionary Decoder := []

namespace Transforms

/-- A later decoder replaces an earlier one of the same name. -/
def register (transforms : Transforms) (name : String) (decoder : Decoder) : Transforms :=
  ⟨transforms.named.insert name decoder⟩

/-- Without a specification the payload is passed on as it is. -/
def resolve (transforms : Transforms) (spec : Option TransformSpec) :
    Except TransformError Decoder :=
  match spec with
  | none | some .raw => .ok .raw
  | some .text => .ok .text
  | some .json => .ok .json
  | some (.custom decoder) => .ok decoder
  | some (.named name) =>
    match transforms.named.find? name with
    | some decoder => .ok decoder
    | none => .error (.unknownTransform name)

def decode (transforms : Transforms) (spec : Option TransformSpec) (payload : List UInt8) :
    Except TransformError Payload :=
  match transforms.resolve spec with
  | .ok decoder => decoder payload
  | .error e => .error e

def names (transforms : Transforms) : List String := transforms.named.map Prod.fst

def dump (transforms : Transforms) : String :=
  "TransformRegistry \x7b named: " ++ Text.bracketed (transforms.names.map Text.quote) ++ " \x7d"

end Transforms
end MqttRouting
