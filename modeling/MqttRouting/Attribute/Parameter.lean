import MqttRouting.Attribute.Token

/-!
Lists between angle brackets. Lifetimes are written before all other entries, and a list
without entries is not written at all.
-/

namespace MqttRouting.Attribute

/-- An argument or parameter, with whether a comma follows it. -/
structure Entry where
  isLifetime : Bool
  tokens : List Token
  comma : Bool := false

def Entry.all (e : Entry) : List Token :=
  e.tokens ++ if e.comma then [.punct ',' false] else []

/-- The tokens of entries with the lifetimes in front, and a comma between the two kinds. -/
def lifetimesFirst (entries : List Entry) : List Token :=
  let lifetimes := entries.filter (·.isLifetime)
  let others := entries.filter (!·.isLifetime)
  let between : List Token :=
    match lifetimes.getLast? with
    | some last => if last.comma || others.isEmpty then [] else [.punct ',' false]
    | none => []
  lifetimes.flatMap Entry.all ++ between ++ others.flatMap Entry.all

/-- A parameter with its default apart. -/
structure Parameter where
  isLifetime : Bool := false
  tokens : List Token
  default : List Token := []
  comma : Bool := false

namespace Parameter

def entry (p : Parameter) : Entry := ⟨p.isLifetime, p.tokens ++ p.default, p.comma⟩

/-- The parameter without its default, which only its first mention may have. -/
def withoutDefault (p : Parameter) : Parameter := { p with default := [] }

end Parameter

def angled (tokens : List Token) : List Token :=
  if tokens.isEmpty then [] else .punct '<' false :: tokens ++ [.punct '>' false]

def parameterTokens (parameters : List Parameter) : List Token :=
  angled (lifetimesFirst (parameters.map Parameter.entry))

end MqttRouting.Attribute
