/-!
The regular expression engine. Matchers are made with it, but it comes from outside: here it
is only known to take an expression or to tell why it does not, in its own words.
-/

namespace MqttRouting.Topic

/-- What makes matchers of expressions. It may refuse one, for its size for example. -/
class Engine where
  refusal? (expression : String) : Option String

end MqttRouting.Topic
