import MqttRouting.Topic.Route
import MqttRouting.Text.Offset

/-!
Matching expressions. An expression is a sequence of pieces that has to take a topic
from its first to its last character; each wildcard piece captures what it takes.
`Accepts` is the language of an expression with its captures, `match?` finds the
captures of a topic. A search may start at any byte offset, so `scan` collects the
matches one after the other; an expression bound to both ends has one at most.
-/

namespace MqttRouting.Topic

inductive Piece where
  /-- This character. -/
  | char (c : Char)
  /-- One or more characters other than a slash. -/
  | level
  /-- Nothing, or a slash and everything behind it. -/
  | tail
  /-- Everything. -/
  | all
  deriving DecidableEq, Repr

abbrev Expression := List Piece

/-- What a group took; a group that took no part in the match is absent. -/
abbrev Capture := Option (List Char)

namespace Piece

/-- A piece takes a text, and its groups capture from it. -/
inductive Takes : Piece → List Char → List Capture → Prop where
  | char (c : Char) : Takes (.char c) [c] []
  | level {text : List Char} : text ≠ [] → '/' ∉ text → Takes .level text [some text]
  | noTail : Takes .tail [] [none]
  | tail (text : List Char) : Takes .tail ('/' :: text) [some ('/' :: text)]
  | all (text : List Char) : Takes .all text [some text]

end Piece

namespace Expression

inductive Accepts : Expression → List Char → List Capture → Prop where
  | nil : Accepts [] [] []
  | cons {piece : Piece} {rest : Expression} {text text' : List Char}
      {captures captures' : List Capture} :
      Piece.Takes piece text captures → Accepts rest text' captures' →
      Accepts (piece :: rest) (text ++ text') (captures ++ captures')

/-- The pieces of a segment. Behind a slash `#` takes the slash too, so that the route
accepts the topic above it. -/
def ofSegment (first : Bool) : Segment → Expression
  | .hash => if first then [.all] else [.tail]
  | .plus => if first then [.level] else [.char '/', .level]
  | .literal level =>
    if first then level.map .char else .char '/' :: level.map .char

def ofSegments : List Segment → Expression
  | [] => []
  | segment :: rest => ofSegment true segment ++ rest.flatMap (ofSegment false)

/-- The captures of a topic. A level piece takes as much as it can, since only a slash
or the end can follow it; the open pieces come last and take all that is left. -/
def match? : Expression → List Char → Option (List Capture)
  | [], [] => some []
  | [], _ :: _ => none
  | .char c :: rest, text =>
    match text with
    | c' :: text => if c = c' then match? rest text else none
    | [] => none
  | .level :: rest, text =>
    let taken := text.takeWhile (· != '/')
    if taken.isEmpty then none
    else (match? rest (text.dropWhile (· != '/'))).map (some taken :: ·)
  | .tail :: rest, text =>
    match text with
    | '/' :: text => (match? rest []).map (some ('/' :: text) :: ·)
    | text => (match? rest text).map (none :: ·)
  | .all :: rest, text => (match? rest []).map (some text :: ·)

end Expression

/-! Searching. -/

/-- A match between two byte offsets. -/
structure Found where
  start : Nat
  stop : Nat
  groups : List Capture

/-- Where the search after a match starts: at its end, or one character past the end of
an empty match, so that there is always progress. -/
def Found.next (found : Found) (text : List Char) : Nat :=
  if found.start = found.stop then
    found.stop + ((Text.charAt? text found.stop).map Char.utf8Size).getD 1
  else found.stop

/-- The matches from an offset on, as `find` reports them. The search ends where nothing
is found, past the end of the text, or where a match would bring no progress. -/
def scan (find : Nat → Option Found) (text : List Char) (start : Nat) : List Found :=
  if start ≤ Text.byteLength text then
    match find start with
    | none => []
    | some found =>
      if start < found.next text then found :: scan find text (found.next text) else [found]
  else []
termination_by Text.byteLength text + 1 - start

end MqttRouting.Topic
