import MqttRouting.Text.Blank
import MqttRouting.Topic.PatternError

/-!
Routes: topic filters without a delivery prefix. A route is a list of levels between
slashes; each level is a text of its own or one of the two wildcards. Empty levels
are levels like any other.
-/

namespace MqttRouting.Topic

abbrev Level := List Char

inductive Segment where
  | literal (level : Level)
  | plus
  | hash
  deriving DecidableEq, Repr

/-- The levels of a topic or route. There is always one at least. -/
def levels (text : List Char) : List Level :=
  text.foldr
    (fun c done =>
      match done with
      | [] => [[c]]
      | level :: rest => if c = '/' then [] :: level :: rest else (c :: level) :: rest)
    [[]]

def joinLevels : List Level → List Char
  | [] => []
  | [level] => level
  | level :: rest => level ++ '/' :: joinLevels rest

namespace Segment

def chars : Segment → Level
  | .literal level => level
  | .plus => ['+']
  | .hash => ['#']

def text (segment : Segment) : String := String.ofList segment.chars

def isWildcard : Segment → Bool
  | .literal _ => false
  | .plus | .hash => true

/-- A wildcard stands alone in its level. -/
def ofLevel (level : Level) : Except PatternError Segment :=
  if level = ['+'] then .ok .plus
  else if level = ['#'] then .ok .hash
  else if level.any (fun c => c == '+' || c == '#') then
    .error (.mixedLevel (String.ofList level))
  else .ok (.literal level)

/-- The segments of all levels, or the error of the leftmost bad one. `done` holds the
segments so far in reverse. -/
def ofLevels (done : List Segment) : List Level → Except PatternError (List Segment)
  | [] => .ok done.reverse
  | level :: rest =>
    match ofLevel level with
    | .ok segment => ofLevels (segment :: done) rest
    | .error e => .error e

end Segment

def hashBeforeLast : List Segment → Bool
  | [] | [_] => false
  | segment :: rest => segment == .hash || hashBeforeLast rest

/-- Reads a route. Of several faults the first in this order is reported: blank, too
long, a null character, a mixed level, a `#` that is not the last level. -/
def parseRoute (route : String) : Except PatternError (List Segment) :=
  if Text.isBlank route then .error .emptyTopic
  else if maxLength < route.utf8ByteSize then .error (.tooLong route.utf8ByteSize maxLength)
  else if '\x00' ∈ route.toList then .error (.nullCharacter route)
  else
    match Segment.ofLevels [] (levels route.toList) with
    | .error e => .error e
    | .ok segments =>
      if hashBeforeLast segments then .error (.hashPosition route) else .ok segments

/-- The topics of a route, level by level: a text matches itself, `+` any level that is
not empty, a final `#` everything that is left, nothing included. -/
def covers : List Segment → List Level → Bool
  | [], [] => true
  | [.hash], _ => true
  | .literal level :: segments, level' :: rest => level == level' && covers segments rest
  | .plus :: segments, level' :: rest => !level'.isEmpty && covers segments rest
  | _, _ => false

end MqttRouting.Topic
