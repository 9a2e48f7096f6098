import MqttRouting.Hook
import MqttRouting.Settings
import MqttRouting.Subscription.Registry
import MqttRouting.Transport

/-!
The dispatcher. It compiles declarations when they come, registers them when the
connection stands, and routes each message to the earliest subscriber it matches. It
talks to nobody itself: a registration pass answers with the subscribe requests to be
made, a message with the handler call to be made.
-/

namespace MqttRouting

inductive Lifecycle where
  /-- Not connected yet. -/
  | idle
  | active
  deriving DecidableEq, Repr

/-- Why a message is dropped. -/
inductive DispatchError where
  | transform (topic : String) (cause : TransformError)
  | beforeHandle (topic : String) (cause : HandlerError)

def DispatchError.message : DispatchError → String
  | .transform topic cause =>
    "Payload transform failed for topic '" ++ topic ++ "': " ++ cause.message
  | .beforeHandle topic cause =>
    "Before-handle hook failed for topic '" ++ topic ++ "': " ++ cause.message

/-- A handler call ready to be made. -/
structure Call (ν : Type) where
  subscriber : Subscriber ν
  args : Args

/-- What a registration pass asks for. -/
structure Pass where
  registered : Nat := 0
  requests : List Request := []

structure Dispatcher (ν : Type) where
  settings : Settings
  transforms : Transforms := {}
  hook : Option Hook := none
  compiler : Topic.Compiler := {}
  /-- The subscribers of all declarations, registered or not. -/
  compiled : List (Subscriber ν) := []
  registry : Registry ν := {}
  lifecycle : Lifecycle := .idle

namespace Dispatcher

variable {ν : Type} [Topic.Engine]

/-! Declarations. -/

/-- Compiles templates up to the first that is no topic. What was compiled before it stays
with the compiler. -/
def compileTemplates (settings : Settings) (declaration : Declaration ν)
    (compiler : Topic.Compiler) :
    List String → Except DeclarationError (List (Subscriber ν)) × Topic.Compiler
  | [] => (.ok [], compiler)
  | template :: rest =>
    let resolved := Topic.substitute template settings.bindings
    match compiler.compile resolved (declaration.policy settings.policy) with
    | (.error cause, compiler) => (.error (.pattern declaration.owner resolved cause), compiler)
    | (.ok topic, compiler) =>
      match compileTemplates settings declaration compiler rest with
      | (.error e, compiler) => (.error e, compiler)
      | (.ok subscribers, compiler) => (.ok (⟨topic, declaration⟩ :: subscribers), compiler)

/-- Compiles all templates of a declaration; all of them are kept or none. -/
def compile (d : Dispatcher ν) (declaration : Declaration ν) :
    Except DeclarationError (List (Subscriber ν)) × Dispatcher ν :=
  match compileTemplates d.settings declaration d.compiler declaration.topics with
  | (.error e, compiler) => (.error e, { d with compiler })
  | (.ok subscribers, compiler) =>
    (.ok subscribers, { d with compiler, compiled := d.compiled ++ subscribers })

def compileAll (d : Dispatcher ν) : List (Declaration ν) → Except DeclarationError (Dispatcher ν)
  | [] => .ok d
  | declaration :: rest =>
    match d.compile declaration with
    | (.error e, _) => .error e
    | (.ok _, d) => d.compileAll rest

/-- A dispatcher that knows the declarations and is not connected yet. -/
def ofDeclarations (settings : Settings) (transforms : Transforms) (hook : Option Hook)
    (declarations : List (Declaration ν)) : Except DeclarationError (Dispatcher ν) :=
  compileAll { settings, transforms, hook } declarations

/-! Registration. -/

def requestOf (d : Dispatcher ν) (s : Subscriber ν) : Request :=
  ⟨s.wireTopic, s.declaration.qos.getD d.settings.defaultQos⟩

/-- Registers every compiled subscriber and asks for those that are new. Known ones are
asked for again only when a reconnect has lost the session and the settings want that. -/
def connected (d : Dispatcher ν) (sessionPresent : Bool) :
    Pass × List Notice × Dispatcher ν :=
  let reconnect := d.lifecycle != .idle
  let (fresh, registry) := d.registry.registerAll d.compiled
  let again := reconnect && !sessionPresent && d.settings.resubscribeOnSessionLoss
  let wanted := if again then registry.entries else fresh
  (⟨fresh.length, wanted.map d.requestOf⟩,
    .registering reconnect sessionPresent d.compiled.length ::
      (if again then [.sessionLost] else []),
    { d with registry, lifecycle := .active })

/-- Takes a declaration at any time. It is registered at once if the connection has stood
before, and with all the others otherwise. -/
def add (d : Dispatcher ν) (declaration : Declaration ν) :
    Except DeclarationError Pass × Dispatcher ν :=
  match d.compile declaration with
  | (.error e, d) => (.error e, d)
  | (.ok subscribers, d) =>
    match d.lifecycle with
    | .idle => (.ok {}, d)
    | .active =>
      let (fresh, registry) := d.registry.registerAll subscribers
      (.ok ⟨fresh.length, fresh.map d.requestOf⟩, { d with registry })

/-! Messages. -/

/-- What a parameter gets from a message. -/
def argument (d : Dispatcher ν) (s : Subscriber ν) (m : Message) (p : Parameter) :
    Except DispatchError Arg :=
  match p.kind with
  | .payload =>
    match d.transforms.decode (s.declaration.payloadTransform p) m.payload with
    | .ok value => .ok (.payload value)
    | .error cause => .error (.transform m.topic cause)
  | .topic => .ok (.topic m.topic)
  | .packet => .ok (.packet m.packet)
  | .params => .ok (.params (s.captures m.topic))

/-- Fills the slots of parameters in the order of their declaration, up to the first that
cannot be filled. -/
def fillSlots (d : Dispatcher ν) (s : Subscriber ν) (m : Message) :
    List Parameter → List (Option Arg) → Except DispatchError (List (Option Arg))
  | [], slots => .ok slots
  | p :: rest, slots =>
    match d.argument s m p with
    | .error e => .error e
    | .ok arg => fillSlots d s m rest (slots.set p.position (some arg))

def checkHook (d : Dispatcher ν) (m : Message) : Except DispatchError Unit :=
  match d.hook with
  | none => .ok ()
  | some hook => (hook m).mapError (.beforeHandle m.topic)

/-- The call for a message, if there is a subscriber for it. The hook is asked before
anything is decoded. -/
def prepare (d : Dispatcher ν) (m : Message) : Except DispatchError (Option (Call ν)) :=
  match d.registry.findMatch? m.topic with
  | none => .ok none
  | some s =>
    match d.checkHook m with
    | .error e => .error e
    | .ok () =>
      match d.fillSlots s m s.declaration.parameters (List.replicate s.declaration.arity none) with
      | .error e => .error e
      | .ok slots => .ok (some ⟨s, ⟨slots⟩⟩)

/-- Routes a message. Whatever goes wrong is noted, and the message is dropped. -/
def receive (d : Dispatcher ν) (m : Message) : Option (Call ν) × List Notice :=
  let early := if d.lifecycle = .idle then [Notice.early m.topic] else []
  match d.prepare m with
  | .ok (some call) => (some call, early)
  | .ok none => (none, early ++ [.unmatched m.topic])
  | .error e => (none, early ++ [.dropped m.topic e.message])

def subscribeResult (wireTopic : String) (success : Bool) : Notice :=
  if success then .granted wireTopic else .denied wireTopic

end Dispatcher
end MqttRouting
