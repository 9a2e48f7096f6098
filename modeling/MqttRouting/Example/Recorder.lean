import MqttRouting.Declaration.Builder
import MqttRouting.Number.Shortest
import MqttRouting.Topic.Engine.Sized

/-!
An example service that writes down what it hears: temperatures, log lines, raw
packets and commands. It shows the kinds of arguments and the ways to subscribe. Its topics
are left to the engine that bounds the size of programs.
-/

namespace MqttRouting.Example.Recorder

abbrev Calls := List (Builder.Call String)

def reading : Json.Shape := .record "Reading" "celsius" .float64

def tooHot : Nat := 100

/-- What is in the one field of a reading. -/
def celsius (v : Json.Value) : Binary64 :=
  match v.field? "celsius" with
  | some (.number (.float x)) => x
  | _ => .zero

def firstText (value : ArgValue) : String :=
  match value with
  | .params (text :: _) => text
  | _ => ""

def textOf (value : ArgValue) : String :=
  match value with
  | .text text => text
  | _ => ""

def temperature : Handler String where
  call args :=
    .extract args .params 0 fun params args =>
    .extract args (.shaped reading) 1 fun value _ =>
      let degrees := match value with
        | .json v => celsius v
        | _ => .zero
      if degrees.above tooHot then .failed (.failed "too hot")
      else .note ("temp " ++ firstText params ++ " " ++ degrees.toPlainText) .done

def logLine : Handler String where
  call args :=
    .extract args .text 0 fun topic args =>
    .extract args .text 1 fun line args =>
    .extract args .params 2 fun params _ =>
      let captures := match params with
        | .params captures => captures
        | _ => []
      .note ("log " ++ textOf topic ++ " " ++ textOf line ++ " " ++
        Text.bracketed (captures.map Text.quote)) .done

def rawPacket : Handler String where
  call args :=
    .extract args .bytes 0 fun bytes args =>
    .extract args .packet 1 fun packet _ =>
      match bytes, packet with
      | .bytes bytes, .packet packet =>
        .note ("raw " ++ toString bytes.length ++ " " ++ packet.topic ++ " " ++
          if packet.retain then "true" else "false") .done
      | _, _ => .done

def commandLine : Handler String where
  call args :=
    .extract args (.optional .text) 0 fun line args =>
    .extract args .text 1 fun topic _ =>
      let line := match line with
        | .present value => some (Text.quote (textOf value))
        | _ => none
      .note ("cmd " ++ textOf topic ++ " " ++ Text.optional line) .done

def failing : Handler String where
  call _ := .failed (.failed "always fails")

/-- The builder calls of all declarations. -/
def calls (owner : String) : List Calls := [
  [.alsoTopic "sensors/+/temperature", .transform .json, .qos .exactlyOnce, .paramsAt 0,
    .payloadAt 1, .boundHandler owner temperature],
  [.alsoTopic "\x7b\x7bsite\x7d\x7d/logs/#", .alsoTopic "audit/#", .queue true, .topicAt 0,
    .payloadWith 1 .text, .paramsAt 2, .boundHandler owner logLine],
  [.alsoTopic "raw/+", .noShare, .qos .atMostOnce, .payloadAt 0, .packetAt 1,
    .boundHandler owner rawPacket],
  [.alsoTopic "\x7b\x7bsite\x7d\x7d/cmd/+", .share "crew", .transform (.named "upper"),
    .payloadAt 0, .topicAt 1, .boundHandler owner commandLine],
  [.alsoTopic "failing", .boundHandler owner failing]]

/-- The declarations of the service, whose type has the given name. -/
def declarations (owner : String) : Except DeclarationError (List (Declaration String)) :=
  (calls owner).mapM Declaration.ofCalls

end MqttRouting.Example.Recorder
