import MqttRouting.Topic.Engine
import MqttRouting.Topic.Regex

/-!
An engine that makes programs of expressions and bounds their size. The larger one of its two
programs searches from the end of a text to the start. It has a state for each byte that it
takes, and states in which it can go on in several ways.
-/

namespace MqttRouting.Topic

namespace Regex

/-- Sizes together. -/
def total (sizes : List Nat) : Nat := sizes.foldr (· + ·) 0

/-- The bytes of a state. -/
def stateSize : Nat := 32

/-- The bytes of a way to go on. -/
def branchSize : Nat := 4

/-- The ways to encode a character in UTF-8, each with the number of its bytes. The first bytes
of a way are followed by the same ones. -/
def encodings : List Nat := [1, 2, 3, 3, 3, 3, 4, 4, 4]

/-- One of several ways, each with its own states, between two states that they have in common. -/
def oneOf (ways : List Nat) : Nat := stateSize * (total ways + 2) + branchSize * ways.length

/-- A character that is left out parts those of one byte. -/
def CharSet.size : CharSet → Nat
  | .any => oneOf encodings
  | .only c => stateSize * c.utf8Size
  | .except _ => oneOf (1 :: encodings)

def Times.size : Times → Nat
  | .once => 0
  | .oneOrMore | .anyNumber => stateSize + 2 * branchSize

def Span.size (span : Span) : Nat := span.set.size + span.times.size

def Item.size : Item → Nat
  | .span one => one.size
  | .group body optional =>
    total (body.map Span.size) + if optional then 2 * stateSize + 2 * branchSize else 0
  | .start | .stop => stateSize

/-- The size of the program, with a state to begin in and one to end in. -/
def size (r : Regex) : Nat := total (r.items.map Item.size) + 2 * stateSize

end Regex

namespace Engine

def sizeLimit : Nat := 10485760

def sizeReason : String := "Compiled regex exceeds size limit of 10485760 bytes."

/-- The engine that refuses what becomes too large, and nothing else. -/
instance sized : Engine where
  refusal? expression := do
    let regex ← Regex.read expression
    if sizeLimit < regex.size then some sizeReason else none

end Engine
end MqttRouting.Topic
