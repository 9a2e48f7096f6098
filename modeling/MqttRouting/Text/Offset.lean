/-!
Byte offsets into a text. An offset is a boundary when the bytes before it are those
of the text's first characters.
-/

namespace MqttRouting.Text

def byteLength (text : List Char) : Nat :=
  text.foldl (fun n c => n + c.utf8Size) 0

/-- The character whose bytes start at an offset. -/
def charAt? : List Char → Nat → Option Char
  | [], _ => none
  | c :: rest, offset =>
    if offset = 0 then some c
    else if offset < c.utf8Size then none
    else charAt? rest (offset - c.utf8Size)

/-- The text from an offset on. It cannot be cut inside a character or past its end. -/
def suffix? : List Char → Nat → Option (List Char)
  | [], offset => if offset = 0 then some [] else none
  | c :: rest, offset =>
    if offset = 0 then some (c :: rest)
    else if offset < c.utf8Size then none
    else suffix? rest (offset - c.utf8Size)

def IsBoundary (text : List Char) (offset : Nat) : Prop :=
  ∃ before after, text = before ++ after ∧ byteLength before = offset

end MqttRouting.Text
