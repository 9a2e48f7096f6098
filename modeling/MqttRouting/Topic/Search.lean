import MqttRouting.Topic.Expression

/-!
The search for all matches, round by round. `scan` ends by itself where a match would bring no
progress; here nobody watches over it. A round asks the engine at an offset, and behind an empty
match it cuts the topic, to see how wide the character is that it has to step over. So a round
can fail, and rounds can follow one another for ever, if the engine does not keep to the topic.
-/

namespace MqttRouting.Topic

/-- Where the search after a match starts; absent where the topic cannot be cut behind it. -/
def Found.next? (found : Found) (text : List Char) : Option Nat :=
  if found.start = found.stop then
    (Text.suffix? text found.stop).map fun rest =>
      found.stop + (rest.head?.map Char.utf8Size).getD 1
  else some found.stop

namespace Search

/-- What a round comes to. -/
inductive Outcome where
  | ended
  /-- The topic was to be cut where it cannot be. -/
  | failed
  /-- A match, and where the next round starts. -/
  | found (found : Found) (next : Nat)

def round (find : Nat → Option Found) (text : List Char) (start : Nat) : Outcome :=
  if start ≤ Text.byteLength text then
    match find start with
    | none => .ended
    | some found =>
      match found.next? text with
      | none => .failed
      | some next => .found found next
  else .ended

/-- Rounds from one offset to another, and their matches. -/
inductive Rounds (find : Nat → Option Found) (text : List Char) :
    Nat → List Found → Nat → Prop where
  | nil {start : Nat} : Rounds find text start [] start
  | cons {start next stop : Nat} {found : Found} {rest : List Found} :
      round find text start = .found found next → Rounds find text next rest stop →
      Rounds find text start (found :: rest) stop

/-- A match that an engine may report at an offset. -/
structure Within (found : Found) (text : List Char) (start : Nat) : Prop where
  startBoundary : Text.IsBoundary text found.start
  stopBoundary : Text.IsBoundary text found.stop
  behind : start ≤ found.start
  ordered : found.start ≤ found.stop

/-- Asked at a boundary, the engine reports nothing, or a match between two boundaries that does
not start before the offset. What it does elsewhere is left open. -/
def KeepsTo (find : Nat → Option Found) (text : List Char) : Prop :=
  ∀ start found, Text.IsBoundary text start → find start = some found → Within found text start

end Search
end MqttRouting.Topic
