import MqttRouting.Handler.Task

/-!
Hooks that look at a message before its handler is called. An error drops the message.
-/

namespace MqttRouting

/-- A hook answers from the message alone. Of hooks that others write it is an assumption that they
keep nothing from one message to the next, and do nothing but answer. -/
abbrev Hook := Message → Except HandlerError Unit

namespace Hook

def rejectEmpty : Hook := fun m =>
  if m.payload.isEmpty then .error (.failed "empty payload") else .ok ()

/-- Rejects the topics that begin with the given text. -/
def block (start : String) : Hook := fun m =>
  if start.toList.isPrefixOf m.topic.toList then .error (.failed ("blocked " ++ m.topic))
  else .ok ()

end Hook
end MqttRouting
