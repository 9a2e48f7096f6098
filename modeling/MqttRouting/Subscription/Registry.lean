import MqttRouting.Subscription

/-!
The registry of subscribers, in the order in which they came. There is one subscriber
at most to a wire topic: who comes later with the same one is turned away. An index
finds the entry of a wire topic.
-/

namespace MqttRouting

structure Registry (ν : Type) where
  entries : List (Subscriber ν) := []
  /-- The place of each wire topic among the entries. -/
  index : Dictionary Nat := []

namespace Registry

variable {ν : Type}

def size (r : Registry ν) : Nat := r.entries.length

def contains (r : Registry ν) (wireTopic : String) : Bool := (r.index.find? wireTopic).isSome

def get? (r : Registry ν) (wireTopic : String) : Option (Subscriber ν) :=
  (r.index.find? wireTopic).bind (r.entries[·]?)

/-- Whether the subscriber is new, and the registry with it. -/
def register (r : Registry ν) (s : Subscriber ν) : Bool × Registry ν :=
  if r.contains s.wireTopic then (false, r)
  else (true, ⟨r.entries ++ [s], r.index.insert s.wireTopic r.size⟩)

/-- Registers one subscriber after the other; those that are new come out in order. -/
def registerAll (r : Registry ν) : List (Subscriber ν) → List (Subscriber ν) × Registry ν
  | [] => ([], r)
  | s :: rest =>
    let (isNew, r) := r.register s
    let (fresh, r) := r.registerAll rest
    (if isNew then s :: fresh else fresh, r)

/-- The earliest subscriber that a topic matches. -/
def findMatch? (r : Registry ν) (topic : String) : Option (Subscriber ν) :=
  r.entries.find? (·.isMatch topic)

def wireTopics (r : Registry ν) : List String := r.entries.map Subscriber.wireTopic

end Registry
end MqttRouting
