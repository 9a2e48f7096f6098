import MqttRouting.Router.Session

/-!
Running a session on its own. Between two things that its surroundings do, both tasks go
on until each of them waits for something from outside.
-/

namespace MqttRouting.Session

variable {ν : Type} [Topic.Engine]

/-- What the tasks and the owner do by themselves. The time for draining is over only when
nothing else can be done. -/
def ownMoves : List (Move ν) :=
  [.collect, .takeCommand, .handOver, .passEvent, .sendRequest, .poll, .stop, .closeCommands,
    .drained, .disconnect, .close, .giveUp]

/-- The first move of a list that is possible. -/
def firstMove? (s : Session ν) : List (Move ν) → Option (Session ν)
  | [] => none
  | m :: rest => (s.move? m).or (s.firstMove? rest)

/-- A bound on the moves until nothing is left to do. Each packet and command may lead to a
pass over all that is registered, in which each request is handed over and sent. -/
def workload (s : Session ν) : Nat :=
  let added := s.commands.foldl (fun sum entry =>
    match entry.command with
    | .add declaration => sum + declaration.topics.length
    | .event _ => sum) 0
  let pass := 2 * (s.dispatcher.compiled.length + added) + 8
  (s.loop.inbound.length + s.commands.length + 4) * pass + 2 * s.sender.requests.length + s.crashes

def settleWithin : Nat → Session ν → Session ν
  | 0, s => s
  | n + 1, s =>
    match s.firstMove? ownMoves with
    | some s => settleWithin n s
    | none => s

def settle (s : Session ν) : Session ν := settleWithin s.workload s

/-- The session after a move, with all that follows from it. A move that is not possible
changes nothing. -/
def after (s : Session ν) (m : Move ν) : Session ν := ((s.move? m).getD s).settle

/-- Forgets what has been reported. -/
def quiet (s : Session ν) : Session ν :=
  { s with activity := {}, results := [], loop := { s.loop with sent := [] } }

end MqttRouting.Session
