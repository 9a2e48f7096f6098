import MqttRouting.Dispatcher

/-!
The dispatcher as a machine that takes one command after the other.
-/

namespace MqttRouting

inductive Command (ν : Type) where
  | event (e : Event)
  | add (declaration : Declaration ν)

/-- What a command leads to. -/
inductive Effect (ν : Type) where
  /-- A registration pass. -/
  | pass (p : Pass)
  /-- A declaration that was not taken. -/
  | refused (e : DeclarationError)
  | call (c : Call ν)
  | nothing

namespace Effect

variable {ν : Type}

def requests : Effect ν → List Request
  | .pass p => p.requests
  | .refused _ | .call _ | .nothing => []

def call? : Effect ν → Option (Call ν)
  | .call c => some c
  | .pass _ | .refused _ | .nothing => none

end Effect

namespace Dispatcher

variable {ν : Type} [Topic.Engine]

def step (d : Dispatcher ν) : Command ν → Effect ν × List Notice × Dispatcher ν
  | .event (.connected sessionPresent) =>
    let (pass, notices, d) := d.connected sessionPresent
    (.pass pass, notices, d)
  | .event (.message m) =>
    match d.receive m with
    | (some call, notices) => (.call call, notices, d)
    | (none, notices) => (.nothing, notices, d)
  | .event (.subscribeResult wireTopic success) =>
    (.nothing, [subscribeResult wireTopic success], d)
  | .add declaration =>
    match d.add declaration with
    | (.ok pass, d) => (.pass pass, [], d)
    | (.error e, d) => (.refused e, [], d)

/-- The effects of commands in order, and the dispatcher behind them. -/
def run (d : Dispatcher ν) : List (Command ν) → List (Effect ν) × Dispatcher ν
  | [] => ([], d)
  | command :: rest =>
    let (effect, _, d) := d.step command
    let (effects, d) := d.run rest
    (effect :: effects, d)

end Dispatcher
end MqttRouting
