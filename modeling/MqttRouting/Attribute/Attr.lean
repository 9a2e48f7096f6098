import MqttRouting.Attribute.Token

/-!
Attributes: a path and what follows it. They stand in front of what they are about, or
with an exclamation mark inside it.
-/

namespace MqttRouting.Attribute

inductive AttrArgs where
  | none
  | list (delimiter : Delimiter) (inner : List Token)
  | value (tokens : List Token)

structure Attr where
  path : List Token
  args : AttrArgs
  /-- Whether it stands inside of what it is about. -/
  inner : Bool := false

namespace Attr

/-- The name of an attribute whose path is one word. -/
def name? (a : Attr) : Option String :=
  match a.path with
  | [.ident name] => some name
  | _ => none

def isNamed (a : Attr) (name : String) : Bool := a.name? == some name

def argTokens : AttrArgs → List Token
  | .none => []
  | .list delimiter inner => [.group delimiter inner]
  | .value tokens => .punct '=' false :: tokens

def tokens (a : Attr) : List Token :=
  .punct '#' false :: (if a.inner then [.punct '!' false] else []) ++
    [.group .bracket (a.path ++ argTokens a.args)]

end Attr
end MqttRouting.Attribute
