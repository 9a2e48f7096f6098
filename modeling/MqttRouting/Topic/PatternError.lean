/-!
Why a subscription template is refused. These are faults of the configuration: a
template that is refused is never registered.
-/

namespace MqttRouting.Topic

/-- The greatest length of a topic, in bytes of its UTF-8 form. -/
def maxLength : Nat := 65535

inductive PatternError where
  | hashPosition (pattern : String)
  | wildcardUsage (usage : String)
  | emptyTopic
  | tooLong (length limit : Nat)
  | nullCharacter (pattern : String)
  | matcher (pattern reason : String)
  deriving DecidableEq, Repr

namespace PatternError

def mixedLevel (level : String) : PatternError :=
  .wildcardUsage ("segment '" ++ level ++ "' mixes a wildcard with other characters")

def message : PatternError → String
  | .hashPosition pattern =>
    "Invalid topic pattern '" ++ pattern ++ "': # wildcard can only be the last segment"
  | .wildcardUsage usage => "Invalid wildcard usage: " ++ usage
  | .emptyTopic => "Topic pattern cannot be empty"
  | .tooLong length limit =>
    "Topic pattern is " ++ toString length ++ " bytes long, limit is " ++ toString limit
  | .nullCharacter pattern => "Topic pattern '" ++ pattern ++ "' contains a null character"
  | .matcher pattern reason => "Failed to build matcher for '" ++ pattern ++ "': " ++ reason

end PatternError
end MqttRouting.Topic
