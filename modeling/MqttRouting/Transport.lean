import MqttRouting.Notice

/-!
Subscribe requests and their way to the broker. A transport takes one request at a
time and may refuse it; the answer of the broker comes later, as an event.
-/

namespace MqttRouting

structure Request where
  wireTopic : String
  qos : Qos
  deriving DecidableEq

inductive TransportError where
  /-- The client could not take the request. -/
  | client (wireTopic reason : String)
  | rejected (wireTopic reason : String)
  deriving DecidableEq

def TransportError.message : TransportError → String
  | .client wireTopic reason => "Failed to queue subscribe for '" ++ wireTopic ++ "': " ++ reason
  | .rejected wireTopic reason => "Subscribe to '" ++ wireTopic ++ "' rejected: " ++ reason

abbrev Answer := Option TransportError

/-- A transport in a state answers a request and goes on in another state. -/
abbrev Transport (σ : Type) := σ → Request → Answer × σ

namespace Transport

variable {σ : Type}

/-- Hands over requests one after the other; a refusal does not stop the rest. -/
def submit (t : Transport σ) (state : σ) : List Request → List (Request × Answer) × σ
  | [] => ([], state)
  | request :: rest =>
    let (answer, state) := t state request
    let (answers, state) := submit t state rest
    ((request, answer) :: answers, state)

end Transport

def Notice.ofAnswer : Request × Answer → Notice
  | (request, none) => .requested request.wireTopic request.qos
  | (request, some e) => .notRequested request.wireTopic e.message

/-- The outcome of a registration pass. -/
structure Report where
  /-- How many subscribers are new in the registry. -/
  registered : Nat := 0
  subscribed : List String := []
  failed : List String := []
  deriving DecidableEq

def Report.ofAnswers (registered : Nat) (answers : List (Request × Answer)) : Report where
  registered := registered
  subscribed := (answers.filter (·.2.isNone)).map (·.1.wireTopic)
  failed := (answers.filter (·.2.isSome)).map (·.1.wireTopic)

/-- A transport in memory: it keeps the requests it takes and refuses some wire topics. -/
structure Outbox where
  refused : List String := []
  taken : List Request := []

def Outbox.transport : Transport Outbox := fun outbox request =>
  if request.wireTopic ∈ outbox.refused then
    (some (.rejected request.wireTopic "not allowed"), outbox)
  else (none, { outbox with taken := outbox.taken ++ [request] })

end MqttRouting
