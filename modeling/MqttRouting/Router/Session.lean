import MqttRouting.Client.EventLoop
import MqttRouting.Dispatcher.Host
import MqttRouting.Router.Error

/-!
A connected router. Two tasks run side by side: the event loop of the client, and the
worker that owns the dispatcher. Events go from the one to the other through a queue of
limited length, and subscribe requests go back through another one. Each task waits
where its queue is full.

A session moves from state to state by the moves below. A move is one stretch of one
task between two points at which it may have to wait, or something that its surroundings
do; a move that is not possible in a state gives nothing.
-/

namespace MqttRouting

/-- What came of the call that added a declaration. -/
inductive CallResult where
  | report (r : Report)
  | refused (e : DeclarationError)
  | lost (e : SendError)

/-- A command in the queue, with the caller that waits for its outcome. -/
structure Entry (ν : Type) where
  command : Command ν
  caller : Option Nat

/-- A registration pass under way. The current request is tracked and not queued yet. -/
structure Underway where
  registered : Nat
  answered : List (Request × Answer) := []
  current : Request
  rest : List Request
  caller : Option Nat

inductive Stage where
  | ready
  | requesting (pass : Underway)
  /-- Waiting for handlers before the end. -/
  | draining
  | ended

/-- The end of the line on which the worker is told to stop. -/
inductive Signal where
  | held
  | given
  | dropped
  deriving DecidableEq

/-- The owner of the tasks. -/
inductive Owner where
  | holding
  /-- Waiting for the worker to end. -/
  | stopping
  /-- Waiting for the event loop to end. -/
  | disconnecting
  | closed
  /-- Has let go of the tasks while they run. -/
  | released
  deriving DecidableEq

structure Limits where
  /-- How many commands may wait. -/
  commands : Nat := 100
  /-- How many requests may wait. -/
  requests : Nat := 10
  deriving DecidableEq

structure Session (ν : Type) where
  limits : Limits
  dispatcher : Dispatcher ν
  pool : Pool ν := {}
  /-- Crashed handlers that the worker has not seen yet. -/
  crashes : Nat := 0
  stage : Stage := .ready
  commands : List (Entry ν) := []
  signal : Signal := .held
  owner : Owner := .holding
  /-- How many handles there are on which declarations can be added. -/
  handles : Nat := 1
  sender : Sender := {}
  loop : EventLoop := {}
  results : List (Nat × CallResult) := []
  activity : Activity ν := {}

namespace Session

variable {ν : Type} [Topic.Engine]

/-- How long handlers may go on when the worker ends, in milliseconds. -/
def drainLimit : Nat := 500

def note (s : Session ν) (notices : List Notice) : Session ν :=
  { s with activity := s.activity.append ⟨[], notices⟩ }

def reply (s : Session ν) (caller : Option Nat) (result : CallResult) : Session ν :=
  match caller with
  | some caller => { s with results := s.results ++ [(caller, result)] }
  | none => s

def isReady (s : Session ν) : Bool :=
  match s.stage with
  | .ready => true
  | .requesting _ | .draining | .ended => false

def isDraining (s : Session ν) : Bool :=
  match s.stage with
  | .draining => true
  | .ready | .requesting _ | .ended => false

def workerEnded (s : Session ν) : Bool :=
  match s.stage with
  | .ended => true
  | .ready | .requesting _ | .draining => false

def hasCommandRoom (s : Session ν) : Bool := s.commands.length < s.limits.commands

def hasRequestRoom (s : Session ν) : Bool := s.sender.requests.length < s.limits.requests

/-! The worker. -/

/-- Ends a registration pass, or goes on with its next request. -/
def continuePass (s : Session ν) (registered : Nat) (answered : List (Request × Answer))
    (caller : Option Nat) : List Request → Session ν
  | [] => { s with stage := .ready }.reply caller (.report (.ofAnswers registered answered))
  | current :: rest =>
    { s with
      stage := .requesting ⟨registered, answered, current, rest, caller⟩
      sender := s.sender.track current }

/-- Starts the handler of a message. -/
def startJob (s : Session ν) (job : Job ν) : Session ν :=
  let (status, activity, pool) := s.pool.start job
  { s with
    pool
    crashes := s.crashes + if status = .crashed then 1 else 0
    activity := s.activity.append activity }

def carryOut (s : Session ν) (entry : Entry ν) : Session ν :=
  let (effect, notices, dispatcher) := s.dispatcher.step entry.command
  let s := { s with dispatcher }.note notices
  match effect, Host.messageOf? entry.command with
  | .pass p, _ => s.continuePass p.registered [] entry.caller p.requests
  | .refused e, _ => s.reply entry.caller (.refused e)
  | .call c, some m => s.startJob (Host.job c m)
  | .call _, none | .nothing, _ => s

def takeCommand? (s : Session ν) : Option (Session ν) :=
  match s.isReady, s.commands with
  | true, entry :: rest => some ({ s with commands := rest }.carryOut entry)
  | _, _ => none

/-- Queues the current request, where there is room, or gets it refused by a client without
event loop. -/
def handOver? (s : Session ν) : Option (Session ν) :=
  match s.stage with
  | .requesting pass =>
    if s.sender.attached && !s.hasRequestRoom then none
    else
      let (answer, sender) := s.sender.take pass.current
      let s := { s with sender }.note [.ofAnswer (pass.current, answer)]
      some (s.continuePass pass.registered (pass.answered ++ [(pass.current, answer)]) pass.caller
        pass.rest)
  | .ready | .draining | .ended => none

/-- The worker is gone, and with it the commands that wait. -/
def endWorker (s : Session ν) : Session ν :=
  let lost := s.commands.filterMap fun entry => entry.caller.map fun c => (c, .lost .responseLost)
  { s with stage := .ended, commands := [], results := s.results ++ lost }

def running (s : Session ν) : Nat := s.pool.waiting.length + s.crashes

/-- Leaves the loop of the worker. Handlers at work are waited for. -/
def leave (s : Session ν) (cause : Notice) : Session ν :=
  let s := s.note [cause, .leaving]
  if s.running = 0 then s.endWorker
  else { s with stage := .draining }.note [.draining s.running]

/-- The worker stops when it is told to, and when nobody is left who could tell it. -/
def stop? (s : Session ν) : Option (Session ν) :=
  if s.isReady && s.signal != .held then some (s.leave .stopSignal) else none

/-- The worker stops when nobody is left to send commands. -/
def closeCommands? (s : Session ν) : Option (Session ν) :=
  if s.isReady && s.commands.isEmpty && s.handles == 0 && s.loop.ended then
    some (s.leave .commandsClosed)
  else none

def collect? (s : Session ν) : Option (Session ν) :=
  if (s.isReady || s.isDraining) && 0 < s.crashes then
    some ({ s with crashes := s.crashes - 1 }.note [.handlerCrashed])
  else none

def drained? (s : Session ν) : Option (Session ν) :=
  if s.isDraining && s.running == 0 then some s.endWorker else none

/-- The time for draining is over. -/
def giveUp? (s : Session ν) : Option (Session ν) :=
  if s.isDraining && s.running != 0 then some (s.note [.stillRunning drainLimit]).endWorker
  else none

/-! The event loop. -/

def withLink (s : Session ν) : List Notice × EventLoop × Sender → Session ν
  | (notices, loop, sender) => { s with loop, sender }.note notices

def sendRequest? (s : Session ν) : Option (Session ν) :=
  (s.loop.sendRequest? s.sender).map s.withLink

def poll? (s : Session ν) : Option (Session ν) := (s.loop.poll? s.sender).map s.withLink

/-- Hands an event on to the worker, where there is room. The loop ends when there is no
worker. -/
def passEvent? (s : Session ν) : Option (Session ν) :=
  match s.loop.held with
  | none => none
  | some e =>
    if s.workerEnded then
      let (loop, sender) := s.loop.finish s.sender
      some (s.withLink
        (EventLoop.endNotices (.noDispatcher SendError.channelClosed.message), loop, sender))
    else if s.hasCommandRoom then
      some { s with
        commands := s.commands ++ [⟨.event e, none⟩]
        loop := { s.loop with held := none } }
    else none

/-! The owner. -/

/-- Begins to shut down: the worker is told to stop. -/
def shutdown? (s : Session ν) : Option (Session ν) :=
  if s.owner = .holding then
    let s := { s with owner := .stopping, signal := .given }
    some (if s.workerEnded then s.note [.signalUnheard] else s)
  else none

/-- Asks for the disconnection once the worker has ended. -/
def disconnect? (s : Session ν) : Option (Session ν) :=
  if s.owner = .stopping && s.workerEnded then
    if !s.sender.attached then
      some ({ s with owner := .disconnecting }.note
        [.stopped, .notDisconnected Sender.detachedReason])
    else if s.hasRequestRoom then
      some ({ s with
        owner := .disconnecting
        sender := { s.sender with requests := s.sender.requests ++ [Outbound.disconnect] } }.note
          [.stopped])
    else none
  else none

def close? (s : Session ν) : Option (Session ν) :=
  if s.owner = .disconnecting && s.loop.ended then
    some ({ s with owner := .closed }.note [.closed])
  else none

/-- Lets go of the tasks without shutting them down. -/
def release? (s : Session ν) : Option (Session ν) :=
  if s.owner = .holding then
    some ({ s with owner := .released, signal := .dropped }.note [.released])
  else none

/-! The surroundings. -/

def arrive? (s : Session ν) (packet : Incoming) : Option (Session ν) :=
  if s.loop.ended then none
  else some { s with loop := { s.loop with inbound := s.loop.inbound ++ [packet] } }

/-- A caller adds a declaration, where there is room. -/
def add? (s : Session ν) (caller : Nat) (declaration : Declaration ν) : Option (Session ν) :=
  if s.handles = 0 then none
  else if s.workerEnded then some (s.reply (some caller) (.lost .channelClosed))
  else if s.hasCommandRoom then
    some { s with commands := s.commands ++ [⟨.add declaration, some caller⟩] }
  else none

def dropHandle? (s : Session ν) : Option (Session ν) :=
  if s.handles = 0 then none else some { s with handles := s.handles - 1 }

/-- Permits for waiting handlers. -/
def permit (s : Session ν) (n : Nat) : Session ν :=
  let (statuses, activity, pool) := s.pool.release n
  { s with
    pool
    crashes := s.crashes + statuses.count .crashed
    activity := s.activity.append activity }

/-! Moves. -/

inductive Move (ν : Type) where
  | takeCommand
  | handOver
  | stop
  | closeCommands
  | collect
  | drained
  | giveUp
  | sendRequest
  | poll
  | passEvent
  | shutdown
  | disconnect
  | close
  | release
  | arrive (packet : Incoming)
  | add (caller : Nat) (declaration : Declaration ν)
  | dropHandle
  | permit (n : Nat)

def move? (s : Session ν) : Move ν → Option (Session ν)
  | .takeCommand => s.takeCommand?
  | .handOver => s.handOver?
  | .stop => s.stop?
  | .closeCommands => s.closeCommands?
  | .collect => s.collect?
  | .drained => s.drained?
  | .giveUp => s.giveUp?
  | .sendRequest => s.sendRequest?
  | .poll => s.poll?
  | .passEvent => s.passEvent?
  | .shutdown => s.shutdown?
  | .disconnect => s.disconnect?
  | .close => s.close?
  | .release => s.release?
  | .arrive packet => s.arrive? packet
  | .add caller declaration => s.add? caller declaration
  | .dropHandle => s.dropHandle?
  | .permit n => some (s.permit n)

/-- One session leads to another by a sequence of moves. -/
inductive Reaches : Session ν → Session ν → Prop where
  | refl (s : Session ν) : Reaches s s
  | step {s t u : Session ν} (m : Move ν) : Reaches s t → t.move? m = some u → Reaches s u

end Session
end MqttRouting
