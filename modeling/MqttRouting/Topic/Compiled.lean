import MqttRouting.Topic.Matcher
import MqttRouting.Topic.Policy
import MqttRouting.Dictionary

/-!
Compiled topics. A resolved template gives the topic that goes to the broker, the
route behind its prefixes and the matcher of that route; messages never carry the
prefixes. The compiler remembers the matchers of routes it has seen.
-/

namespace MqttRouting.Topic

structure Compiled where
  wireTopic : String
  route : String
  matcher : Matcher
  deriving DecidableEq

namespace Compiled

def ofMatcher (matcher : Matcher) (policy : Policy) : Compiled :=
  ⟨policy.wireTopic matcher.route, matcher.route, matcher⟩

def compile [Engine] (template : String) (policy : Policy) : Except PatternError Compiled :=
  (Matcher.compile (stripPrefixes template)).map (ofMatcher · policy)

def isMatch (topic : Compiled) (incoming : String) : Bool := topic.matcher.isMatch incoming

end Compiled

structure Compiler where
  matchers : Dictionary Matcher := []

namespace Compiler

/-- A matcher is built only when its route is new; a failure is not remembered. -/
def compile [Engine] (compiler : Compiler) (template : String) (policy : Policy) :
    Except PatternError Compiled × Compiler :=
  let route := stripPrefixes template
  match compiler.matchers.find? route with
  | some matcher => (.ok (.ofMatcher matcher policy), compiler)
  | none =>
    match Matcher.compile route with
    | .error e => (.error e, compiler)
    | .ok matcher =>
      (.ok (.ofMatcher matcher policy), ⟨compiler.matchers.insert matcher.route matcher⟩)

def cachedRoutes (compiler : Compiler) : Nat := compiler.matchers.length

end Compiler
end MqttRouting.Topic
