import MqttRouting.Attribute.Plan

/-!
The source text that attributes stand for: a function that builds the declarations of
all handlers of a block, each bound to one object.
-/

namespace MqttRouting.Attribute

namespace Generated

/-- Source text as tokens. -/
def code (text : String) : List Token := (Token.ofText? text).getD []

def paren (inner : List Token) : List Token := [.group .paren inner]

def brace (inner : List Token) : List Token := [.group .brace inner]

def comma : List Token := [.punct ',' false]

def separated : List (List Token) → List Token
  | [] => []
  | [last] => last
  | first :: rest => first ++ comma ++ separated rest

def number (n : Nat) : List Token := [.literal (toString n ++ "usize")]

def text (t : TextLiteral) : List Token := [.literal t.source]

/-- A call in a chain of calls. -/
def chained (name : String) (args : List Token) : List Token :=
  .punct '.' false :: .ident name :: paren args

def transformSpec (name : TextLiteral) : List Token :=
  code "::mqtt_topic_dispatch::TransformSpec::from_name" ++ paren (text name)

def level (q : Qos) : List Token := code "::mqtt_topic_dispatch::QoS::" ++ [.ident q.name]

def flag (on : Bool) : List Token := [.ident (if on then "true" else "false")]

def step : Step → List Token
  | .topics templates =>
    code "::mqtt_topic_dispatch::SubscriptionDeclaration::builder_for_topics" ++
      paren [.group .bracket (separated (templates.map text))]
  | .queue on => chained "queue" (flag on)
  | .share (.group name) => chained "share" (text name)
  | .share .disabled => chained "no_share" []
  | .transform name => chained "transform" (transformSpec name)
  | .qos q => chained "qos" (level q)
  | .parameter position .payload (some name) =>
    chained "payload_with" (number position ++ comma ++ transformSpec name ++ comma)
  | .parameter position .payload none => chained "payload_at" (number position)
  | .parameter position .topic _ => chained "topic_at" (number position)
  | .parameter position .packet _ => chained "packet_at" (number position)
  | .parameter position .params _ => chained "params_at" (number position)

/-- The variable that holds an argument. -/
def variableOf (a : HandlerArg) : Token := .ident ("__arg" ++ toString a.position)

def extraction (a : HandlerArg) : List Token :=
  [.ident "let", variableOf a, .punct ':' false] ++ a.type ++ code "= args.extract" ++
    paren (number a.position) ++ code "?;"

def closure (m : HandlerMethod) : List Token :=
  let args := if m.args.isEmpty then code "_args" else code "mut args"
  let call := code "this." ++ [.ident m.name] ++
    paren (separated (m.args.map fun a => [variableOf a])) ++ code ".await,"
  code "|this: ::std::sync::Arc<Self>," ++ args ++
    code ": ::mqtt_topic_dispatch::HandlerArgs| async move" ++
    brace (m.args.flatMap extraction ++
      code "::mqtt_topic_dispatch::IntoHandlerResult::into_handler_result" ++ paren call)

def declaration (m : HandlerMethod) : List Token :=
  m.steps.flatMap step ++
    chained "bound_handler" (code "::std::sync::Arc::clone(self)," ++ closure m) ++
    chained "build" [] ++ code "?"

def push (m : HandlerMethod) : List Token :=
  code "declarations.push" ++ paren (declaration m) ++ code ";"

def docAttr (line : String) : List Token :=
  Attr.tokens ⟨[.ident "doc"], .value [.literal ("r\"" ++ line ++ "\"")], false⟩

/-- The function that builds all declarations. -/
def declarationsFn (handlers : List HandlerMethod) : List Token :=
  docAttr " Subscription declarations for every `#[subscribe]` method," ++
    docAttr " each bound to this instance." ++
    code "pub fn subscription_declarations(self: &::std::sync::Arc<Self>)" ++
    code "-> ::std::result::Result<" ++
    code "::std::vec::Vec<::mqtt_topic_dispatch::SubscriptionDeclaration>," ++
    code "::mqtt_topic_dispatch::errors::DeclarationError,>" ++
    brace (code "let mut declarations = ::std::vec::Vec::with_capacity" ++
      paren (number handlers.length) ++ code ";" ++ handlers.flatMap push ++
      code "::std::result::Result::Ok(declarations)")

/-- The block without its markers, and a block with the function behind it. -/
def complete (b : ImplBlock) (handlers : List HandlerMethod) : List Token :=
  b.withoutMarkers.tokens ++
    ({ b with attrs := [], qualifiers := [], ofTrait := none, innerAttrs := [],
              parameters := b.parameters.map Parameter.withoutDefault,
              items := [.other (declarationsFn handlers)] } : ImplBlock).tokens

end Generated
end MqttRouting.Attribute
