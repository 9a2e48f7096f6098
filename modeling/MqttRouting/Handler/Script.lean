import MqttRouting.Handler.Task

/-!
Scripted handlers: small behaviours for trying out a routing set-up. A script notes
what it sees under the name of its author.
-/

namespace MqttRouting

inductive Script where
  /-- Notes all slots. -/
  | record
  /-- Takes arguments one after the other and notes each; the first misfit is the outcome. -/
  | extract (wanted : List (Nat × ArgType))
  /-- Waits for a permit, then notes all slots. -/
  | gate
  | fail (reason : String)
  /-- Fails as the reading of a text as JSON does. -/
  | failReading (text : String)
  | crash

inductive Observation where
  | slots (slots : List (Option Arg))
  | value (value : ArgValue)
  | word (text : String)

structure Note where
  author : Json.Value
  seen : Observation

namespace Script

def extractAll (author : Json.Value) : List (Nat × ArgType) → Args → Task Note
  | [], _ => .done
  | (position, type) :: rest, args =>
    .extract args type position fun value args =>
      .note ⟨author, .value value⟩ (extractAll author rest args)

def perform (author : Json.Value) (script : Script) (args : Args) : Task Note :=
  let recorded : Task Note := .note ⟨author, .slots args.slots⟩ .done
  match script with
  | .record => recorded
  | .extract wanted => extractAll author wanted args
  | .gate => .note ⟨author, .word "waiting"⟩ (.waiting recorded)
  | .fail reason => .note ⟨author, .word "failing"⟩ (.failed (.failed reason))
  | .failReading text =>
    .note ⟨author, .word "failing"⟩ <|
      match Json.Value.ofText text with
      | .ok _ => .done
      | .error fault => .failed (.failed fault.message)
  | .crash => .note ⟨author, .word "panicking"⟩ .crashed

def handler (script : Script) (author : Json.Value) : Handler Note :=
  ⟨script.perform author⟩

end Script
end MqttRouting
