import MqttRouting.Dispatcher.Step
import MqttRouting.Handler.Pool

/-!
The dispatcher at work, with a transport for its requests and a pool for its handlers.
-/

namespace MqttRouting

structure Host (σ ν : Type) where
  dispatcher : Dispatcher ν
  /-- The state of the transport. -/
  link : σ
  pool : Pool ν := {}

/-- What a command comes to. -/
inductive Reply where
  | report (r : Report)
  | refused (e : DeclarationError)
  | handler (status : Job.Status)
  | nothing

namespace Host

variable {σ ν : Type} [Topic.Engine]

def job (c : Call ν) (m : Message) : Job ν where
  topic := m.topic
  wireTopic := c.subscriber.wireTopic
  owner := c.subscriber.declaration.owner
  task := c.subscriber.declaration.handler.call c.args

/-- The message that a command carries. -/
def messageOf? : Command ν → Option Message
  | .event (.message m) => some m
  | .event (.connected _) | .event (.subscribeResult _ _) | .add _ => none

/-- Takes a command: makes the requests of a pass, or starts the handler of a message. -/
def step (transport : Transport σ) (h : Host σ ν) (command : Command ν) :
    Reply × Activity ν × Host σ ν :=
  let (effect, notices, dispatcher) := h.dispatcher.step command
  let h := { h with dispatcher }
  match effect, messageOf? command with
  | .pass p, _ =>
    let (answers, link) := transport.submit h.link p.requests
    (.report (.ofAnswers p.registered answers), ⟨[], notices ++ answers.map Notice.ofAnswer⟩,
      { h with link })
  | .refused e, _ => (.refused e, ⟨[], notices⟩, h)
  | .call c, some m =>
    let (status, activity, pool) := h.pool.start (job c m)
    (.handler status, Activity.append ⟨[], notices⟩ activity, { h with pool })
  | .call _, none | .nothing, _ => (.nothing, ⟨[], notices⟩, h)

/-- The replies to commands in order, and the host behind them. -/
def run (transport : Transport σ) (h : Host σ ν) : List (Command ν) → List Reply × Host σ ν
  | [] => ([], h)
  | command :: rest =>
    let (reply, _, h) := h.step transport command
    let (replies, h) := run transport h rest
    (reply :: replies, h)

/-- Calls the handler for a message on the spot, as far as it gets. Its error goes to the
caller, not into the notices. -/
def invoke (h : Host σ ν) (m : Message) :
    Except DispatchError (Option (Task.Stop ν)) × List ν × Host σ ν :=
  match h.dispatcher.prepare m with
  | .error e => (.error e, [], h)
  | .ok none => (.ok none, [], h)
  | .ok (some c) =>
    let progress := (job c m).task.advance h.pool.permits
    (.ok (some progress.stop), progress.notes,
      { h with pool := { h.pool with permits := progress.permits } })

/-- Adds permits for waiting handlers. -/
def release (h : Host σ ν) (n : Nat) : List Job.Status × Activity ν × Host σ ν :=
  let (statuses, activity, pool) := h.pool.release n
  (statuses, activity, { h with pool })

end Host
end MqttRouting
