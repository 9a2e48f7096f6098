import MqttRouting.Json.Shape
import MqttRouting.Message
import MqttRouting.Payload.Basic

/-!
Handler arguments. A handler gets a list of slots by position and takes what it needs
out of them, each as the type it wants. A slot that was taken is empty afterwards,
whether the type fitted or not.
-/

namespace MqttRouting

inductive Arg where
  | payload (value : Payload)
  | topic (name : String)
  | packet (packet : Packet)
  | params (captures : List String)

def Arg.kind : Arg → String
  | .payload (.raw _) => "raw payload"
  | .payload (.text _) => "text payload"
  | .payload (.json _) => "json payload"
  | .payload (.custom _) => "custom payload"
  | .topic _ => "topic"
  | .packet _ => "packet"
  | .params _ => "params"

inductive ArgumentError where
  | missing (position : Nat)
  | mismatch (position : Nat) (expected found : String)
  | undecodable (position : Nat) (fault : Json.Fault)

def ArgumentError.message : ArgumentError → String
  | .missing position => "No argument at position " ++ toString position
  | .mismatch position expected found =>
    "Argument at position " ++ toString position ++ " is " ++ found ++ ", expected " ++ expected
  | .undecodable position fault =>
    "Argument at position " ++ toString position ++ " failed to deserialize: " ++ fault.message

/-- What a handler wants out of a slot. -/
inductive ArgType where
  | any
  | payload
  | bytes
  | text
  | topic
  | packet
  | params
  | json
  /-- Data of a shape, read on the spot from bytes or text. -/
  | shaped (shape : Json.Shape)
  | optional (type : ArgType)

inductive ArgValue where
  | arg (a : Arg)
  | payload (p : Payload)
  | bytes (b : List UInt8)
  | text (s : String)
  | packet (p : Packet)
  | params (captures : List String)
  | json (v : Json.Value)
  | absent
  | present (value : ArgValue)

namespace ArgType

/-- What a mismatch says was expected. -/
def expectation : ArgType → String
  | .any => "argument"
  | .payload => "payload"
  | .bytes => "raw payload"
  | .text => "text payload or topic"
  | .topic => "topic"
  | .packet => "packet"
  | .params => "params"
  | .json | .shaped _ => "json payload"
  | .optional type => type.expectation

/-- Data of a shape in a payload of any of the three built-in forms. -/
def readShape (shape : Json.Shape) : Payload → Option (Except Json.Fault Json.Value)
  | .json v => some (shape.ofValue v)
  | .text s => some (shape.ofBytes s.toUTF8.toList)
  | .raw b => some (shape.ofBytes b)
  | .custom _ => none

/-- The argument as a type, if it is of a kind that the type accepts. -/
def accept? (type : ArgType) (a : Arg) : Option (Except Json.Fault ArgValue) :=
  match type, a with
  | .any, a => some (.ok (.arg a))
  | .payload, .payload p => some (.ok (.payload p))
  | .bytes, .payload (.raw b) => some (.ok (.bytes b))
  | .bytes, .payload (.text s) => some (.ok (.bytes s.toUTF8.toList))
  | .text, .payload (.text s) => some (.ok (.text s))
  | .text, .topic name => some (.ok (.text name))
  | .topic, .topic name => some (.ok (.text name))
  | .packet, .packet p => some (.ok (.packet p))
  | .params, .params captures => some (.ok (.params captures))
  | .json, .payload (.json v) => some (.ok (.json v))
  | .shaped shape, .payload p => (readShape shape p).map fun r => r.map .json
  | .optional type, a => (type.accept? a).map fun r => r.map .present
  | _, _ => none

/-- Only an optional type puts up with an empty slot. -/
def convert (type : ArgType) (position : Nat) (slot : Option Arg) :
    Except ArgumentError ArgValue :=
  match slot with
  | none =>
    match type with
    | .optional _ => .ok .absent
    | _ => .error (.missing position)
  | some a =>
    match type.accept? a with
    | none => .error (.mismatch position type.expectation a.kind)
    | some (.error fault) => .error (.undecodable position fault)
    | some (.ok value) => .ok value

end ArgType

structure Args where
  slots : List (Option Arg)

namespace Args

def size (args : Args) : Nat := args.slots.length

def get? (args : Args) (position : Nat) : Option Arg := (args.slots[position]?).join

def take (args : Args) (position : Nat) : Option Arg × Args :=
  (args.get? position, ⟨args.slots.set position none⟩)

def extract (args : Args) (type : ArgType) (position : Nat) :
    Except ArgumentError ArgValue × Args :=
  let (slot, args) := args.take position
  (type.convert position slot, args)

def describe (args : Args) : String :=
  Text.bracketed (args.slots.map fun slot => (slot.map Arg.kind).getD "null")

end Args
end MqttRouting
