import MqttRouting.Declaration
import MqttRouting.Topic.Compiled

/-!
Subscribers: a declaration under one of its compiled topics.
-/

namespace MqttRouting

structure Subscriber (ν : Type) where
  topic : Topic.Compiled
  declaration : Declaration ν

namespace Subscriber

variable {ν : Type}

def wireTopic (s : Subscriber ν) : String := s.topic.wireTopic

def route (s : Subscriber ν) : String := s.topic.route

def isMatch (s : Subscriber ν) (topic : String) : Bool := s.topic.isMatch topic

def captures (s : Subscriber ν) (topic : String) : List String := s.topic.matcher.captures topic

end Subscriber
end MqttRouting
