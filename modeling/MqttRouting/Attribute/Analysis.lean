import MqttRouting.Attribute.Arguments
import MqttRouting.Attribute.ImplBlock.Reader
import MqttRouting.Declaration
import MqttRouting.Topic.Compiled
import MqttRouting.Topic.Placeholder

/-!
What the attributes of a block of methods say: for each method with a `subscribe`
attribute, its templates and options and where its arguments come from.
-/

namespace MqttRouting.Attribute

variable [Topic.Engine]

structure HandlerArg where
  /-- The place among the arguments behind the receiver. -/
  position : Nat
  kind : ParameterKind
  type : List Token
  transform : Option TextLiteral
  deriving DecidableEq

structure HandlerMethod where
  name : String
  subscribe : SubscribeArgs
  args : List HandlerArg
  deriving DecidableEq

/-- A template is checked with a plain level in the place of every placeholder. -/
def checkTemplate (template : String) : Except AttributeError Unit :=
  match Topic.Compiled.compile (Topic.fill template) {} with
  | .ok _ => .ok ()
  | .error e => .error (.template e)

namespace Analysis

/-! Subscriptions. -/

def subscribeName : String := "subscribe"

def subscribeArgs : AttrArgs → Except AttributeError SubscribeArgs
  | .none => .error .noArguments
  | .value _ => .error .notParenthesized
  | .list _ inner => SubscribeArgs.ofTokens inner

def checkTemplates : List TextLiteral → Except AttributeError Unit
  | [] => .ok ()
  | template :: rest =>
    match checkTemplate template.value with
    | .ok () => checkTemplates rest
    | .error e => .error e

def checkShare : Option ShareOption → Except AttributeError Unit
  | some (.group name) => if name.value.isEmpty then .error .emptyShare else .ok ()
  | some .disabled | none => .ok ()

def checkSubscribe (args : SubscribeArgs) : Except AttributeError Unit :=
  if args.topics.isEmpty then .error .noTemplate
  else
    match checkTemplates args.topics with
    | .ok () => checkShare args.share
    | .error e => .error e

/-! Signatures. -/

/-- A receiver by reference that cannot change anything. -/
def isSharedReceiver : List Token → Bool
  | .punct '&' _ :: .punct '\'' _ :: .ident _ :: token :: _ => token.isIdent "self"
  | .punct '&' _ :: token :: _ => token.isIdent "self"
  | _ => false

def checkReceiver : List Input → Except AttributeError Unit
  | ⟨_, .receiver tokens⟩ :: _ =>
    if isSharedReceiver tokens then .ok () else .error .receiver
  | _ => .error .noReceiver

def checkSignature (s : Signature) : Except AttributeError Unit :=
  if !s.qualifiers.any (·.isIdent "async") then .error .notAsync
  else if !s.parameters.isEmpty then .error .generic
  else checkReceiver s.inputs

/-! Arguments. -/

def sourceKind? : String → Option ParameterKind
  | "payload" => some .payload
  | "topic" => some .topic
  | "packet" => some .packet
  | "params" => some .params
  | _ => none

/-- What an attribute says about the source of an argument, if it is about that. -/
def sourceOf? (a : Attr) : Option (String × ParameterKind) :=
  a.name?.bind fun name => (sourceKind? name).map (name, ·)

def isSource (a : Attr) : Bool := (sourceOf? a).isSome

/-- Further words of a path, behind its first. -/
def pathWords (last : Bool) : List Token → Except AttributeError (List String × List Token)
  | .punct ':' true :: .punct ':' _ :: .ident word :: rest => do
    let (words, rest) ← pathWords last rest
    .ok (word :: words, rest)
  | .punct ':' true :: .punct ':' _ :: rest => Stretch.missing (.piece "ident") last rest
  | rest => .ok ([], rest)

/-- What an option of a payload is called, and what follows. Keywords are names here. -/
def optionPath (last : Bool) : List Token → Except AttributeError (List String × List Token)
  | .ident word :: rest => do
    let (words, rest) ← pathWords last rest
    .ok (word :: words, rest)
  | .literal _ :: _ => .error .nestedLiteral
  | .punct '-' _ :: .literal source :: _ =>
    .error (if Literal.isNumber source then .nestedLiteral else .nestedToken)
  | [] =>
    if last then .error (.malformed (.endOfInput (.piece "nested attribute")))
    else .error .nestedToken
  | _ => .error .nestedToken

/-- An option of a payload, which names its transform. -/
def nestedOption (last : Bool) (stretch : List Token) : Except AttributeError TextLiteral := do
  let (path, left) ←
    match stretch with
    | .punct ':' true :: .punct ':' _ :: rest => do
      let _ ← optionPath last rest
      .error .unknownNested
    | stretch => optionPath last stretch
  if path ≠ ["transform"] then .error .unknownNested
  else
    let left ← Stretch.equals left
    let (name, left) ← Stretch.text last left
    Stretch.finish name left

/-- Options of a payload; the last transform counts. -/
def nested (transform : Option TextLiteral) :
    List (List Token × Bool) → Except AttributeError (Option TextLiteral)
  | [] => .ok transform
  | (stretch, comma) :: rest => do
    let name ← nestedOption (!comma) stretch
    nested (some name) rest

def sourceArgs (name : String) (kind : ParameterKind) :
    AttrArgs → Except AttributeError (Option TextLiteral)
  | .none => .ok none
  | .list _ inner =>
    if kind = .payload then nested none (commaSeparated inner)
    else .error (.takesNoArguments name)
  | .value _ => .error (.takesNoArguments name)

/-- The one source of an argument. -/
def source (found : Option (ParameterKind × Option TextLiteral)) :
    List Attr → Except AttributeError (ParameterKind × Option TextLiteral)
  | [] =>
    match found with
    | some found => .ok found
    | none => .error .noSource
  | a :: rest =>
    match sourceOf? a, found with
    | none, found => source found rest
    | some _, some _ => .error .twoSources
    | some (name, kind), none =>
      match sourceArgs name kind a.args with
      | .ok transform => source (some (kind, transform)) rest
      | .error e => .error e

def checkType (type : List Token) : Except AttributeError Unit :=
  match type with
  | .punct '&' _ :: _ => .error .borrowed
  | .ident "impl" :: _ => .error .implTrait
  | _ => .ok ()

/-- The arguments from a position on. -/
def handlerArgs (position : Nat) : List Input → Except AttributeError (List HandlerArg)
  | [] => .ok []
  | ⟨_, .receiver _⟩ :: rest => handlerArgs (position + 1) rest
  | ⟨attrs, .typed _ type⟩ :: rest => do
    let (kind, transform) ← source none attrs
    checkType type
    let more ← handlerArgs (position + 1) rest
    .ok (⟨position, kind, type, transform⟩ :: more)

/-! Methods. -/

/-- The first `subscribe` attribute in front of a method or inside of it. -/
def subscribeAttr? (m : Method) : Option Attr :=
  (m.attrs ++ m.innerAttrs).find? (·.isNamed subscribeName)

/-- A method by its `subscribe` attribute. -/
def handler (m : Method) (a : Attr) : Except AttributeError HandlerMethod := do
  let subscribe ← subscribeArgs a.args
  checkSubscribe subscribe
  checkSignature m.signature
  let args ← handlerArgs 0 (m.signature.inputs.drop 1)
  .ok ⟨m.signature.name, subscribe, args⟩

def handlers : List Item → Except AttributeError (List HandlerMethod)
  | [] => .ok []
  | .other _ :: rest => handlers rest
  | .method m :: rest =>
    match subscribeAttr? m with
    | none => handlers rest
    | some a => do
      let first ← handler m a
      let more ← handlers rest
      .ok (first :: more)

end Analysis

/-- The handlers of a block, which has to have one at least and to be for no trait. -/
def ImplBlock.handlers (b : ImplBlock) : Except AttributeError (List HandlerMethod) :=
  if b.ofTrait.isSome then .error .traitImpl
  else
    match Analysis.handlers b.items with
    | .error e => .error e
    | .ok [] => .error .noHandlers
    | .ok handlers => .ok handlers

/-! Blocks without the attributes that have been looked at. -/

/-- An argument without what says where it comes from. -/
def Input.withoutSources (input : Input) : Input :=
  if input.body.isReceiver then input
  else { input with attrs := input.attrs.filter (!Analysis.isSource ·) }

def Signature.withoutSources (s : Signature) : Signature :=
  { s with inputs := s.inputs.map Input.withoutSources }

/-- On a method with a `subscribe` attribute, removes all of them and the sources of its
arguments. -/
def Method.withoutMarkers (m : Method) : Method :=
  if (Analysis.subscribeAttr? m).isSome then
    { m with
      attrs := m.attrs.filter (!·.isNamed Analysis.subscribeName)
      innerAttrs := m.innerAttrs.filter (!·.isNamed Analysis.subscribeName)
      signature := m.signature.withoutSources }
  else m

def Item.withoutMarkers : Item → Item
  | .method m => .method m.withoutMarkers
  | .other tokens => .other tokens

def ImplBlock.withoutMarkers (b : ImplBlock) : ImplBlock :=
  { b with items := b.items.map Item.withoutMarkers }

end MqttRouting.Attribute
