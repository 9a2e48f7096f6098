import MqttRouting.Attribute.Arguments
import MqttRouting.Declaration.Builder

/-!
Reading source text that builds declarations: calls of a builder one behind the other, the last
with a closure, whose lines take arguments out of their slots and whose end calls a method with
them. Names have to be bound before they are used, and what is changed has to be marked so. What
is read has a meaning for an object that has the methods.
-/

namespace MqttRouting.Attribute
namespace Code

/-- A line that takes an argument out of its slot and binds it to a name. -/
structure Extraction where
  name : String
  type : List Token
  position : Nat

/-- Lines, and the call of a method with names that are bound by them. -/
structure Closure where
  extractions : List Extraction
  method : String
  passed : List String

/-- Calls of a builder, and the closure that the last one hands over. -/
structure Chain (ν : Type) where
  calls : List (Builder.Call ν)
  closure : Closure

/-! Pieces. -/

/-- Names with two colons in front of each. -/
def path (names : List String) : List Token :=
  names.flatMap fun name => [.punct ':' true, .punct ':' false, .ident name]

/-- What follows behind tokens that have to come first. -/
def behind? (first tokens : List Token) : Option (List Token) :=
  if first <+: tokens then some (tokens.drop first.length) else none

/-- What a path at the front is applied to, if nothing follows. -/
def applied? (names : List String) (tokens : List Token) : Option (List Token) :=
  match behind? (path names) tokens with
  | some [.group .paren inner] => some inner
  | _ => none

/-- What stands between the commas. -/
def separate (tokens : List Token) : List (List Token) := (commaSeparated tokens).map Prod.fst

/-- Statements that end with a semicolon, and what stands behind the last one. -/
def statements : List Token → List (List Token) × List Token
  | [] => ([], [])
  | token :: rest =>
    let (ended, last) := statements rest
    if token.isPunct ';' then ([] :: ended, last)
    else
      match ended with
      | [] => ([], token :: last)
      | first :: more => ((token :: first) :: more, last)

def name? : List Token → Option String
  | [.ident name] => some name
  | _ => none

def flag? : List Token → Option Bool
  | [.ident "true"] => some true
  | [.ident "false"] => some false
  | _ => none

def text? : List Token → Option String
  | [token] => (Stretch.text? token).map TextLiteral.value
  | _ => none

/-- A number that can be a position. -/
def number? : List Token → Option Nat
  | [.literal source] =>
    match Literal.wholeParts? source with
    | some (n, ['u', 's', 'i', 'z', 'e']) => some n
    | _ => none
  | _ => none

def transformSpec? (tokens : List Token) : Option TransformSpec :=
  (applied? ["mqtt_topic_dispatch", "TransformSpec", "from_name"] tokens).bind fun inner =>
    (text? inner).map .ofName

def qos? (tokens : List Token) : Option Qos :=
  match behind? (path ["mqtt_topic_dispatch", "QoS"] ++ [.punct ':' true, .punct ':' false])
      tokens with
  | some [.ident "AtMostOnce"] => some .atMostOnce
  | some [.ident "AtLeastOnce"] => some .atLeastOnce
  | some [.ident "ExactlyOnce"] => some .exactlyOnce
  | _ => none

/-! Closures. -/

/-- A line that takes an argument out of `source`. Its type ends where that begins. -/
def extraction? (source : String) : List Token → Option Extraction
  | .ident "let" :: .ident name :: .punct ':' _ :: rest =>
    let width := rest.length - 6
    match rest.drop width with
    | [.punct '=' _, .ident object, .punct '.' _, .ident "extract", .group .paren position,
        .punct '?' _] =>
      if object = source ∧ name ≠ source ∧ name ≠ "this" then
        (number? position).map (⟨name, rest.take width, ·⟩)
      else none
    | _ => none
  | _ => none

/-- The method that is called on `this` and waited for, and what is passed to it. -/
def methodCall? : List Token → Option (String × List String)
  | [.ident "this", .punct '.' _, .ident method, .group .paren inner, .punct '.' _,
      .ident "await", .punct ',' _] =>
    ((separate inner).mapM name?).map (method, ·)
  | _ => none

/-- Lines that take arguments out of `source`, which they change, and a call with names that they
bind. -/
def body? (source : String) (changing : Bool) (tokens : List Token) : Option Closure :=
  let (lines, last) := statements tokens
  (lines.mapM (extraction? source)).bind fun extractions =>
    (applied? ["mqtt_topic_dispatch", "IntoHandlerResult", "into_handler_result"] last).bind
      fun call => (methodCall? call).bind fun (method, passed) =>
        let bound := extractions.map Extraction.name
        if (changing || extractions.isEmpty) && passed.all bound.contains then
          some ⟨extractions, method, passed⟩
        else none

/-- The object that a closure is called for. -/
def thisInput : List Token :=
  [.punct '|' false, .ident "this", .punct ':' false] ++ path ["std", "sync", "Arc"] ++
    [.punct '<' false, .ident "Self", .punct '>' true, .punct ',' false]

/-- The name of the arguments that a closure is called with, and whether it may change them. -/
def source? : List Token → Option (String × Bool × List Token)
  | .ident "mut" :: .ident source :: rest => some (source, true, rest)
  | .ident source :: rest => some (source, false, rest)
  | _ => none

/-- What follows behind the name of the arguments, up to the body. -/
def sourceType : List Token :=
  [.punct ':' false] ++ path ["mqtt_topic_dispatch", "HandlerArgs"] ++
    [.punct '|' false, .ident "async", .ident "move"]

def closure? (tokens : List Token) : Option Closure :=
  (behind? thisInput tokens).bind fun tokens =>
    (source? tokens).bind fun (source, changing, tokens) =>
      match behind? sourceType tokens with
      | some [.group .brace body] => body? source changing body
      | _ => none

/-! Calls of a builder. -/

variable {ν : Type}

def call? (name : String) (inner : List Token) : Option (Builder.Call ν) :=
  match name, separate inner with
  | "queue", [on] => (flag? on).map .queue
  | "share", [group] => (text? group).map .share
  | "no_share", [] => some .noShare
  | "transform", [spec] => (transformSpec? spec).map .transform
  | "qos", [level] => (qos? level).map .qos
  | "payload_with", [position, spec] =>
    (number? position).bind fun position => (transformSpec? spec).map (.payloadWith position)
  | "payload_at", [position] => (number? position).map .payloadAt
  | "topic_at", [position] => (number? position).map .topicAt
  | "packet_at", [position] => (number? position).map .packetAt
  | "params_at", [position] => (number? position).map .paramsAt
  | _, _ => none

/-- Further calls. The last ones hand over the object with a closure, and check everything. -/
def calls? : List Token → Option (Chain ν)
  | [.punct '.' _, .ident "bound_handler", .group .paren inner, .punct '.' _, .ident "build",
      .group .paren [], .punct '?' _] =>
    (behind? (path ["std", "sync", "Arc", "clone"] ++
      [.group .paren [.ident "self"], .punct ',' false]) inner).bind fun closure =>
        (closure? closure).map (⟨[], ·⟩)
  | .punct '.' _ :: .ident name :: .group .paren inner :: rest =>
    (call? name inner).bind fun call =>
      (calls? rest).map fun chain => { chain with calls := call :: chain.calls }
  | _ => none

def chain? (tokens : List Token) : Option (Chain ν) :=
  match behind? (path ["mqtt_topic_dispatch", "SubscriptionDeclaration", "builder_for_topics"])
      tokens with
  | some (.group .paren [.group .bracket templates] :: rest) =>
    ((separate templates).mapM text?).bind fun topics =>
      (calls? rest).map fun chain => { chain with calls := topics.map .alsoTopic ++ chain.calls }
  | _ => none

/-! The function that makes a list of all declarations. -/

def withoutAttrs : List Token → List Token
  | .punct '#' _ :: .group .bracket _ :: rest => withoutAttrs rest
  | tokens => tokens

/-- The function that is wanted, up to its body. -/
def signature : List Token :=
  [.ident "pub", .ident "fn", .ident "subscription_declarations",
    .group .paren ([.ident "self", .punct ':' false, .punct '&' true] ++
      path ["std", "sync", "Arc"] ++ [.punct '<' false, .ident "Self", .punct '>' false]),
    .punct '-' true, .punct '>' false] ++
  path ["std", "result", "Result"] ++ [.punct '<' false] ++
  path ["std", "vec", "Vec"] ++ [.punct '<' true] ++
  path ["mqtt_topic_dispatch", "SubscriptionDeclaration"] ++ [.punct '>' true, .punct ',' false] ++
  path ["mqtt_topic_dispatch", "errors", "DeclarationError"] ++ [.punct ',' true, .punct '>' false]

/-- A statement that makes a new list. -/
def newList? : List Token → Option String
  | .ident "let" :: .ident "mut" :: .ident name :: .punct '=' _ :: rest =>
    (applied? ["std", "vec", "Vec", "with_capacity"] rest).bind fun capacity =>
      (number? capacity).map fun _ => name
  | _ => none

/-- A statement that puts a declaration behind those in a list. -/
def push? (list : String) : List Token → Option (Chain ν)
  | [.ident object, .punct '.' _, .ident "push", .group .paren inner] =>
    if object = list then chain? inner else none
  | _ => none

/-- What is put in the list that is the result, in its order. -/
def function? (tokens : List Token) : Option (List (Chain ν)) :=
  match behind? signature (withoutAttrs tokens) with
  | some [.group .brace body] =>
    match statements body with
    | (first :: pushes, last) =>
      (newList? first).bind fun list =>
        if last = path ["std", "result", "Result", "Ok"] ++ [.group .paren [.ident list]] then
          pushes.mapM (push? list)
        else none
    | _ => none
  | _ => none

end Code

/-! What is meant. -/

open Code

variable {ν : Type}

/-- What source text is about: an object, by the name of its type and what its methods do with
values, and what types want out of slots. -/
structure Object (ν : Type) where
  owner : String
  typeOf : List Token → ArgType
  method : String → List ArgValue → Task ν

namespace Code

/-- Lines one after the other, up to the first argument that does not fit: which positions are
looked at, and what the names stand for in the end, the last one first. -/
def extract (typeOf : List Token → ArgType) (scope : List (String × ArgValue)) :
    List Extraction → Args → List Nat × Except ArgumentError (List (String × ArgValue))
  | [], _ => ([], .ok scope)
  | line :: rest, args =>
    match args.extract (typeOf line.type) line.position with
    | (.ok value, args) =>
      let (positions, outcome) := extract typeOf ((line.name, value) :: scope) rest args
      (line.position :: positions, outcome)
    | (.error e, _) => ([line.position], .error e)

/-- The positions that a call looks at. -/
def Closure.positions (closure : Closure) (object : Object ν) (args : Args) : List Nat :=
  (extract object.typeOf [] closure.extractions args).1

def Closure.handler (closure : Closure) (object : Object ν) : Handler ν where
  call args :=
    match (extract object.typeOf [] closure.extractions args).2 with
    | .ok scope => object.method closure.method (closure.passed.filterMap (List.lookup · scope))
    | .error e => .failed (.argument e)

/-- All calls, with the handler that the closure is for an object. -/
def Chain.allCalls (chain : Chain ν) (object : Object ν) : List (Builder.Call ν) :=
  chain.calls ++ [.boundHandler object.owner (chain.closure.handler object)]

end Code
end MqttRouting.Attribute
