import MqttRouting.Topic.Expression

/-!
Expressions as texts. A route is handed to the regular expression engine in writing; here
are that text and what it means there. Of the notation only what routes make use of can be
read: characters of their own or behind a backslash, `.`, `[^c]`, `*` and `+` behind one of
these, groups, which do not nest, `?` behind a group, `^`, `$`, and the flag `s` in front.
-/

namespace MqttRouting.Topic

/-! Writing. -/

/-- The characters that stand for something else in an expression. -/
def metaChars : List Char :=
  ['\\', '.', '+', '*', '?', '(', ')', '|', '[', ']', '\x7b', '\x7d', '^', '$', '#', '&', '-', '~']

def escape (text : List Char) : List Char :=
  text.flatMap fun c => if c ∈ metaChars then ['\\', c] else [c]

/-- The text of a segment. Behind the first level `#` brings its slash inside the group, so
that both can be absent. -/
def Segment.written (first : Bool) : Segment → List Char
  | .hash => if first then "(.*)".toList else "(/.*)?".toList
  | .plus => if first then "([^/]+)".toList else "/([^/]+)".toList
  | .literal level => if first then escape level else '/' :: escape level

def writtenSegments : List Segment → List Char
  | [] => []
  | segment :: rest => segment.written true ++ rest.flatMap (Segment.written false)

/-- The expression of a route, between its anchors. -/
def written (segments : List Segment) : String :=
  String.ofList ("(?s)^".toList ++ writtenSegments segments ++ "$".toList)

/-! Reading. -/

namespace Regex

inductive CharSet where
  | any
  | only (c : Char)
  | except (c : Char)
  deriving DecidableEq, Repr

inductive Times where
  | once
  | oneOrMore
  | anyNumber
  deriving DecidableEq, Repr

/-- So many characters of a set. -/
structure Span where
  set : CharSet
  times : Times
  deriving DecidableEq, Repr

inductive Item where
  | span (span : Span)
  | group (body : List Span) (optional : Bool)
  | start
  | stop
  deriving DecidableEq, Repr

/-- What is read so far: the items, and the spans of a group that is still open. Both are
held in reverse. -/
structure Reading where
  items : List Item
  group : Option (List Span)
  deriving DecidableEq, Repr

namespace Reading

def push (r : Reading) (set : CharSet) : Reading :=
  match r with
  | ⟨items, none⟩ => ⟨.span ⟨set, .once⟩ :: items, none⟩
  | ⟨items, some spans⟩ => ⟨items, some (⟨set, .once⟩ :: spans)⟩

/-- A repetition is about the set right in front of it. -/
def repeated (times : Times) (r : Reading) : Option Reading :=
  match r.group, r.items with
  | none, .span ⟨set, .once⟩ :: items => some ⟨.span ⟨set, times⟩ :: items, none⟩
  | some (⟨set, .once⟩ :: spans), items => some ⟨items, some (⟨set, times⟩ :: spans)⟩
  | _, _ => none

/-- A character that stands for something else. -/
def sign (c : Char) (r : Reading) : Option Reading :=
  match c, r with
  | '.', r => some (r.push .any)
  | '*', r => r.repeated .anyNumber
  | '+', r => r.repeated .oneOrMore
  | '(', ⟨items, none⟩ => some ⟨items, some []⟩
  | ')', ⟨items, some spans⟩ => some ⟨.group spans.reverse false :: items, none⟩
  | '?', ⟨.group body false :: items, none⟩ => some ⟨.group body true :: items, none⟩
  | '^', ⟨items, none⟩ => some ⟨.start :: items, none⟩
  | '$', ⟨items, none⟩ => some ⟨.stop :: items, none⟩
  | _, _ => none

def finish : Reading → Option (List Item)
  | ⟨items, none⟩ => some items.reverse
  | ⟨_, some _⟩ => none

end Reading

def readOn (r : Reading) : List Char → Option (List Item)
  | '\\' :: c :: rest => if c ∈ metaChars then readOn (r.push (.only c)) rest else none
  | '[' :: '^' :: c :: ']' :: rest =>
    if c ∈ metaChars then none else readOn (r.push (.except c)) rest
  | c :: rest =>
    if c ∈ metaChars then
      match r.sign c with
      | some r => readOn r rest
      | none => none
    else readOn (r.push (.only c)) rest
  | [] => r.finish

end Regex

structure Regex where
  /-- Whether `.` takes a newline too. -/
  dotAll : Bool
  items : List Regex.Item
  deriving DecidableEq, Repr

namespace Regex

def read (text : String) : Option Regex :=
  match text.toList with
  | '(' :: '?' :: 's' :: ')' :: rest => (readOn ⟨[], none⟩ rest).map (⟨true, ·⟩)
  | rest => (readOn ⟨[], none⟩ rest).map (⟨false, ·⟩)

/-! Matching. -/

def CharSet.Has (dotAll : Bool) : CharSet → Char → Prop
  | .any, c => dotAll = true ∨ c ≠ '\n'
  | .only c', c => c = c'
  | .except c', c => c ≠ c'

def Times.Allows : Times → Nat → Prop
  | .once, n => n = 1
  | .oneOrMore, n => 0 < n
  | .anyNumber, _ => True

def Span.Takes (dotAll : Bool) (span : Span) (text : List Char) : Prop :=
  span.times.Allows text.length ∧ ∀ c ∈ text, span.set.Has dotAll c

/-- Spans one after the other. -/
inductive SpansTake (dotAll : Bool) : List Span → List Char → Prop where
  | nil : SpansTake dotAll [] []
  | cons {span : Span} {rest : List Span} {text text' : List Char} :
      span.Takes dotAll text → SpansTake dotAll rest text' →
      SpansTake dotAll (span :: rest) (text ++ text')

/-- An item takes a text, with what stands before it and after it, and captures from it. -/
inductive Item.Takes (dotAll : Bool) :
    Item → List Char → List Char → List Char → List Capture → Prop where
  | span {span : Span} {before text after : List Char} :
      span.Takes dotAll text → Item.Takes dotAll (.span span) before text after []
  | group {body : List Span} {optional : Bool} {before text after : List Char} :
      SpansTake dotAll body text →
      Item.Takes dotAll (.group body optional) before text after [some text]
  | absent {body : List Span} {before after : List Char} :
      Item.Takes dotAll (.group body true) before [] after [none]
  | start {after : List Char} : Item.Takes dotAll .start [] [] after []
  | stop {before : List Char} : Item.Takes dotAll .stop before [] [] []

inductive ItemsTake (dotAll : Bool) :
    List Item → List Char → List Char → List Char → List Capture → Prop where
  | nil {before after : List Char} : ItemsTake dotAll [] before [] after []
  | cons {item : Item} {rest : List Item} {before text text' after : List Char}
      {captures captures' : List Capture} :
      item.Takes dotAll before text (text' ++ after) captures →
      ItemsTake dotAll rest (before ++ text) text' after captures' →
      ItemsTake dotAll (item :: rest) before (text ++ text') after (captures ++ captures')

/-- A match: the text between the two others, and the captures. -/
def Matches (r : Regex) (before text after : List Char) (captures : List Capture) : Prop :=
  ItemsTake r.dotAll r.items before text after captures

/-- There is a match somewhere in a topic. -/
def Occurs (r : Regex) (topic : List Char) : Prop :=
  ∃ before text after captures, topic = before ++ text ++ after ∧
    r.Matches before text after captures

end Regex
end MqttRouting.Topic
