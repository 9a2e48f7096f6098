import MqttRouting.Handler.Args

/-!
Handlers. Calling one gives a task: what the handler does step by step. A task may
leave notes for its surroundings, may wait for a permit, and ends with an outcome or
by crashing. Tasks are finite, so nothing else has to be said about running them.
-/

namespace MqttRouting

inductive HandlerError where
  | argument (e : ArgumentError)
  | failed (reason : String)

def HandlerError.message : HandlerError → String
  | .argument e => "Invalid handler argument: " ++ e.message
  | .failed reason => reason

inductive Task (ν : Type) where
  | finished (outcome : Except HandlerError Unit)
  | crashed
  | note (what : ν) (next : Task ν)
  | waiting (next : Task ν)

structure Handler (ν : Type) where
  call : Args → Task ν

variable {ν : Type}

namespace Task

/-- The same task, with no error to report at the end. -/
def silenced : Task ν → Task ν
  | .finished _ => .finished (.ok ())
  | .crashed => .crashed
  | .note what next => .note what next.silenced
  | .waiting next => .waiting next.silenced

def failed (e : HandlerError) : Task ν := .finished (.error e)

def done : Task ν := .finished (.ok ())

/-- Takes an argument out and goes on with it; a misfit ends the task. -/
def extract (args : Args) (type : ArgType) (position : Nat) (next : ArgValue → Args → Task ν) :
    Task ν :=
  match args.extract type position with
  | (.ok value, args) => next value args
  | (.error e, _) => .failed (.argument e)

end Task

/-- A handler whose errors nobody hears of. -/
def Handler.silenced (handler : Handler ν) : Handler ν :=
  ⟨fun args => (handler.call args).silenced⟩

def Handler.idle : Handler ν := ⟨fun _ => .done⟩

end MqttRouting
