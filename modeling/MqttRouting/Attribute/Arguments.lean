import MqttRouting.Attribute.Error
import MqttRouting.Attribute.Literal
import MqttRouting.Message

/-!
The arguments of a `subscribe` attribute: a template that may come first, and options
separated by commas. Templates add up over all options that name some; every other
option holds what it was set to last.
-/

namespace MqttRouting.Attribute

inductive ShareOption where
  | group (name : TextLiteral)
  | disabled
  deriving DecidableEq

inductive SubscribeOption where
  | queue (on : Bool)
  | share (choice : ShareOption)
  | transform (name : TextLiteral)
  | qos (q : Qos)
  | topics (templates : List TextLiteral)

structure SubscribeArgs where
  topics : List TextLiteral := []
  queue : Option Bool := none
  share : Option ShareOption := none
  transform : Option TextLiteral := none
  qos : Option Qos := none
  deriving DecidableEq

def SubscribeArgs.apply (args : SubscribeArgs) : SubscribeOption → SubscribeArgs
  | .queue on => { args with queue := some on }
  | .share choice => { args with share := some choice }
  | .transform name => { args with transform := some name }
  | .qos q => { args with qos := some q }
  | .topics templates => { args with topics := args.topics ++ templates }

/-! Readers of stretches between commas. The last stretch ends where the input ends. -/

namespace Stretch

/-- Nothing may be left in front of the comma. -/
def finish {α : Type} (value : α) : List Token → Except AttributeError α
  | [] => .ok value
  | _ :: _ => .error (.malformed (.expected .comma))

/-- Something else, or nothing at all, stands where something was looked for. -/
def missing {α : Type} (what : Expectation) (last : Bool) : List Token → Except AttributeError α
  | [] => .error (.malformed (if last then .endOfInput what else .expected what))
  | _ :: _ => .error (.malformed (.expected what))

def equals : List Token → Except AttributeError (List Token)
  | token :: rest =>
    if token.isPunct '=' then .ok rest else .error (.malformed (.expected .equals))
  | [] => .error (.malformed (.expected .equals))

def text? : Token → Option TextLiteral
  | .literal source => Literal.text? source
  | .ident _ | .punct _ _ | .group _ _ => none

def text (last : Bool) (tokens : List Token) :
    Except AttributeError (TextLiteral × List Token) :=
  match tokens with
  | token :: rest =>
    match text? token with
    | some literal => .ok (literal, rest)
    | none => missing .text last tokens
  | [] => missing .text last tokens

def flag (last : Bool) (tokens : List Token) : Except AttributeError (Bool × List Token) :=
  match tokens with
  | .ident "true" :: rest => .ok (true, rest)
  | .ident "false" :: rest => .ok (false, rest)
  | tokens => missing .flag last tokens

/-- A level of service. -/
def qos (last : Bool) (tokens : List Token) : Except AttributeError (Qos × List Token) :=
  match tokens with
  | .literal source :: rest =>
    match Literal.whole? source with
    | some n =>
      if 255 < n then .error .tooLarge
      else
        match Qos.ofLevel? n with
        | some q => .ok (q, rest)
        | none => .error .qosRange
    | none => missing .whole last tokens
  | .punct '-' _ :: .literal source :: _ =>
    if (Literal.whole? source).isSome then .error .notANumber else missing .whole last tokens
  | tokens => missing .whole last tokens

/-- Templates between square brackets. -/
def templates : List (List Token × Bool) → Except AttributeError (List TextLiteral)
  | [] => .ok []
  | (stretch, comma) :: rest => do
    let (literal, left) ← text (!comma) stretch
    let literal ← finish literal left
    let more ← templates rest
    .ok (literal :: more)

def namedOption (last : Bool) (name : String) (rest : List Token) :
    Except AttributeError SubscribeOption :=
  match name with
  | "queue" =>
    match rest with
    | .punct '=' _ :: rest => do
      let (on, rest) ← flag last rest
      finish (.queue on) rest
    | rest => finish (.queue true) rest
  | "no_share" => finish (.share .disabled) rest
  | "share" => do
    let rest ← equals rest
    let (name, rest) ← text last rest
    finish (.share (.group name)) rest
  | "transform" => do
    let rest ← equals rest
    let (name, rest) ← text last rest
    finish (.transform name) rest
  | "qos" => do
    let rest ← equals rest
    let (q, rest) ← qos last rest
    finish (.qos q) rest
  | "topics" => do
    let rest ← equals rest
    match rest with
    | .group .bracket inner :: rest =>
      let literals ← templates (commaSeparated inner)
      finish (.topics literals) rest
    | rest => missing .squareBrackets last rest
  | name => .error (.unknownOption name)

def option (last : Bool) : List Token → Except AttributeError SubscribeOption
  | .ident name :: rest =>
    if isKeyword name then .error (.malformed (.keyword name)) else namedOption last name rest
  | _ => .error (.malformed (.expected .identifier))

end Stretch

namespace SubscribeArgs

def readOptions (args : SubscribeArgs) :
    List (List Token × Bool) → Except AttributeError SubscribeArgs
  | [] => .ok args
  | (stretch, comma) :: rest =>
    match Stretch.option (!comma) stretch with
    | .ok o => (args.apply o).readOptions rest
    | .error e => .error e

/-- The template in front of the options, if there is one. -/
def leading? : List (List Token × Bool) → Option (TextLiteral × List Token)
  | (token :: left, _) :: _ => (Stretch.text? token).map (·, left)
  | _ => none

def ofTokens (tokens : List Token) : Except AttributeError SubscribeArgs :=
  let stretches := commaSeparated tokens
  match leading? stretches with
  | none => readOptions {} stretches
  | some (template, left) =>
    match Stretch.finish template left with
    | .ok template => readOptions { topics := [template] } (stretches.drop 1)
    | .error e => .error e

def ofText (text : String) : Except AttributeError SubscribeArgs :=
  match Token.ofText? text with
  | some tokens => ofTokens tokens
  | none => .error (.malformed .notTokens)

end SubscribeArgs
end MqttRouting.Attribute
