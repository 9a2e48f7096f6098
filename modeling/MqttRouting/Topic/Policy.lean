/-!
Delivery policies. A subscription goes to every client, to one client of a queue or
to one member of a share group; on the wire the last two are prefixes of the topic.
`stripPrefixes` takes such prefixes off a template.
-/

namespace MqttRouting.Topic

/-- A queue wins over a share group, and an empty share group is none. -/
structure Policy where
  queue : Bool := false
  share : Option String := none
  deriving DecidableEq, Repr

def queuePrefix : String := "$queue/"

def sharePrefix : String := "$share/"

def Policy.wireTopic (policy : Policy) (route : String) : String :=
  if policy.queue then queuePrefix ++ route
  else
    match policy.share with
    | some group => if group.isEmpty then route else sharePrefix ++ group ++ "/" ++ route
    | none => route

/-- What follows a given beginning. -/
def afterStart? : List Char → List Char → Option (List Char)
  | [], text => some text
  | _ :: _, [] => none
  | c :: start, c' :: text => if c = c' then afterStart? start text else none

def isGroupChar (c : Char) : Bool := c.isAlphanum

/-- Takes off `$share/<group>/` when the group is a word of ASCII letters and digits. -/
def stripShare (text : List Char) : List Char :=
  match afterStart? sharePrefix.toList text with
  | none => text
  | some rest =>
    let group := rest.takeWhile (· != '/')
    match rest.dropWhile (· != '/') with
    | [] => text
    | _ :: route => if !group.isEmpty && group.all isGroupChar then route else text

def stripQueue (text : List Char) : List Char :=
  (afterStart? queuePrefix.toList text).getD text

/-- Takes off a queue prefix and then a share prefix, each once at most. -/
def stripPrefixes (template : String) : String :=
  String.ofList (stripShare (stripQueue template.toList))

end MqttRouting.Topic
