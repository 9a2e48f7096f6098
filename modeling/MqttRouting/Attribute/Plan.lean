import MqttRouting.Attribute.Analysis
import MqttRouting.Declaration.Builder

/-!
What the attributes of a method amount to: the steps that build its declaration, and a
handler that takes the arguments of the method out of their slots.
-/

namespace MqttRouting.Attribute

inductive Step where
  | topics (templates : List TextLiteral)
  | queue (on : Bool)
  | share (choice : ShareOption)
  | transform (name : TextLiteral)
  | qos (q : Qos)
  | parameter (position : Nat) (kind : ParameterKind) (transform : Option TextLiteral)

namespace SubscribeArgs

/-- The steps of the options that are set, in a fixed order. -/
def steps (args : SubscribeArgs) : List Step :=
  (args.queue.map Step.queue).toList ++ (args.share.map Step.share).toList ++
    (args.transform.map Step.transform).toList ++ (args.qos.map Step.qos).toList

end SubscribeArgs

def HandlerMethod.steps (m : HandlerMethod) : List Step :=
  .topics m.subscribe.topics :: m.subscribe.steps ++
    m.args.map fun a => .parameter a.position a.kind a.transform

variable {ν : Type}

/-- The builder calls of a step. Only payloads have a transform. -/
def Step.calls : Step → List (Builder.Call ν)
  | .topics templates => templates.map fun t => .alsoTopic t.value
  | .queue on => [.queue on]
  | .share (.group name) => [.share name.value]
  | .share .disabled => [.noShare]
  | .transform name => [.transform (.ofName name.value)]
  | .qos q => [.qos q]
  | .parameter position .payload (some name) => [.payloadWith position (.ofName name.value)]
  | .parameter position .payload none => [.payloadAt position]
  | .parameter position .topic _ => [.topicAt position]
  | .parameter position .packet _ => [.packetAt position]
  | .parameter position .params _ => [.paramsAt position]

namespace HandlerMethod

/-- The builder calls of a method, bound to an object with the given type. -/
def calls (m : HandlerMethod) (owner : String) (handler : Handler ν) : List (Builder.Call ν) :=
  m.steps.flatMap Step.calls ++ [.boundHandler owner handler]

def declaration (m : HandlerMethod) (owner : String) (handler : Handler ν) :
    Except DeclarationError (Declaration ν) :=
  Declaration.ofCalls (m.calls owner handler)

/-- Takes arguments out of their slots one after the other and goes on with their values. -/
def extractAll (typeOf : HandlerArg → ArgType) (body : List ArgValue → Task ν)
    (values : List ArgValue) : List HandlerArg → Args → Task ν
  | [], _ => body values.reverse
  | a :: rest, args =>
    .extract args (typeOf a) a.position fun value args =>
      extractAll typeOf body (value :: values) rest args

/-- A handler that calls the method with its arguments in their order. -/
def handlerOf (m : HandlerMethod) (typeOf : HandlerArg → ArgType)
    (body : List ArgValue → Task ν) : Handler ν :=
  ⟨extractAll typeOf body [] m.args⟩

end HandlerMethod
end MqttRouting.Attribute
