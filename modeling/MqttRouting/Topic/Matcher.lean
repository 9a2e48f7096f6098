import MqttRouting.Topic.Engine
import MqttRouting.Topic.Regex

/-!
The matcher of a route. It keeps no state between topics.
-/

namespace MqttRouting.Topic

structure Matcher where
  route : String
  segments : List Segment
  expression : Expression
  deriving DecidableEq

namespace Matcher

/-- A route that can be read has a matcher if the engine takes its expression. -/
def compile [Engine] (route : String) : Except PatternError Matcher :=
  match parseRoute route with
  | .error e => .error e
  | .ok segments =>
    match Engine.refusal? (Topic.written segments) with
    | some reason => .error (.matcher route reason)
    | none => .ok ⟨route, segments, .ofSegments segments⟩

def written (m : Matcher) : String := Topic.written m.segments

def wildcardCount (m : Matcher) : Nat := m.segments.countP Segment.isWildcard

def isMatch (m : Matcher) (topic : String) : Bool :=
  (m.expression.match? topic.toList).isSome

/-- The expression is bound to the start of the topic, so only a search from there finds
anything. -/
def find (m : Matcher) (topic : List Char) (start : Nat) : Option Found :=
  if start = 0 then
    (m.expression.match? topic).map fun groups => ⟨0, Text.byteLength topic, groups⟩
  else none

/-- The captures of all matches in a topic; an absent group counts as empty, so that
captures stay aligned with wildcards. -/
def captures (m : Matcher) (topic : String) : List String :=
  (scan (m.find topic.toList) topic.toList 0).flatMap fun found =>
    found.groups.map fun group => String.ofList (group.getD [])

end Matcher
end MqttRouting.Topic
