import MqttRouting.Attribute.Grammar.Path

/-!
Bounds, parameters between angle brackets, and conditions behind `where`. A colon with no
bound behind it is left out of a parameter, and conditions that are none are left out.
-/

namespace MqttRouting.Attribute.Grammar

variable (g : Nested)

/-! Bounds. -/

/-- Parameters of a type that holds for all of them. -/
def binder : Reader Unit := do
  read (.word "for")
  read (.mark "<")
  loop do
    if ← sees (.mark ">") then return false
    g.parameter
    if ← sees (.mark ">") then return false
    read (.mark ",")
    return true
  read (.mark ">")

def binderIf : Reader Bool := do
  if ← sees (.word "for") then
    binder g
    return true
  else return false

/-- A mark that makes a bound hold for constants; answers whether there was one. -/
def constMark (constant : Bool) : Reader Bool := do
  if ← sees (.group .bracket) then
    within .bracket (read (.word "const"))
    if constant then return true else refuse .conditionalBound
  else if ← sees (.word "const") then
    read (.word "const")
    if constant then return true else refuse .constBound
  else return false

/-- A trait as a bound, with what may stand in front of it; answers whether it is one of the
usual form. -/
def traitBound (constant : Bool) : Reader Bool := do
  let bound ← binderIf g
  let marked ← constMark constant
  let relaxed ← readIf (.mark "?")
  let late ← if !bound && relaxed then binderIf g else pure false
  let shape ← path g false
  if shape.bare && (← seesCall) then
    dropColons
    _ ← callArguments g
  if (bound || late) && relaxed then refuse .binderWithModifier
  return !marked

def capturedParameter : Reader Bool := do
  if ← sees .lifetime then
    read .lifetime
    return true
  else
    _ ← readWord
    return false

/-- The parameters that a type captures. -/
def captureEntries : Nat → List Entry → Reader (List Entry)
  | 0, done => return done
  | rounds + 1, done => do
    if ← seesAny [.lifetime, .name, .word "Self"] then
      let (isLifetime, tokens) ← captured capturedParameter
      if ← sees (.mark ",") then
        pass (.mark ",")
        captureEntries rounds (⟨isLifetime, tokens, true⟩ :: done)
      else if ← sees (.mark ">") then return ⟨isLifetime, tokens, false⟩ :: done
      else missingAny [.mark ",", .mark ">"]
    else if ← sees (.mark ">") then return done
    else missingAny [.lifetime, .name, .mark ">"]

def captureList : Reader Unit := do
  read (.word "use")
  read (.mark "<")
  let entries ← captureEntries ((← get).rest.length + 1) []
  write (lifetimesFirst entries.reverse)
  read (.mark ">")

/-- A single bound. -/
def bound (captures constant : Bool) : Reader BoundKind := do
  if ← sees .lifetime then
    read .lifetime
    return .lifetime
  else if ← sees (.word "use") then
    captureList
    if captures then return .capture else refuse .captureList
  else
    let start ← get
    let usual ←
      if ← sees (.group .paren) then within .paren (traitBound g constant)
      else traitBound g constant
    if !usual then takeSince start
    return .traitName

/-- What can come behind a plus sign. -/
def seesBoundStart : Reader Bool := do
  return (← seesWord) || (← seesAny [.mark "::", .mark "?", .lifetime, .group .paren])

/-- Bounds in the place of a type; answers with the kind of each. -/
def boundsFrom (plus captures constant : Bool) : Nat → Reader (List BoundKind)
  | 0 => return []
  | rounds + 1 => do
    let first ← g.bound captures constant
    if !(plus && (← readIf (.mark "+"))) then return [first]
    let more ←
      if (← seesBoundStart) ||
          (constant && (← seesAny [.group .bracket, .word "const"])) then
        boundsFrom plus captures constant rounds
      else pure []
    return first :: more

def bounds (plus captures constant : Bool) : Reader (List BoundKind) := do
  boundsFrom g plus captures constant ((← get).rest.length + 1)

/-! Parameters. -/

/-- Lifetimes with plus signs between them, up to what ends them. -/
def lifetimesUpTo (ends : Reader Bool) : Reader Unit :=
  loop do
    if ← ends then return false
    read .lifetime
    readIf (.mark "+")

/-- A colon and bounds, if there are some. -/
def boundsAfterColon (inner : Reader Unit) : Reader Unit := do
  if ← sees (.mark ":") then
    let ((), tokens) ← captured do
      read (.mark ":")
      inner
    if 1 < tokens.length then write tokens

def lifetimeParameter : Reader Unit := do
  _ ← outerAttrs g
  read .lifetime
  boundsAfterColon (lifetimesUpTo do
    return (← atEnd) || (← seesAny [.mark ",", .mark ">"]))

def typeParameter : Reader Unit := do
  _ ← outerAttrs g
  _ ← readName
  boundsAfterColon (boundsUpTo g do
    return (← atEnd) || (← seesAny [.mark ",", .mark ">", .mark "="]))

/-- The default of a parameter, which only its first mention may have. -/
def typeDefault : Reader Unit := do
  if ← readIf (.mark "=") then _ ← g.type true

def constParameter : Reader Unit := do
  _ ← outerAttrs g
  read (.word "const")
  _ ← readName
  read (.mark ":")
  _ ← g.type true

def constDefault : Reader Unit := do
  if ← readIf (.mark "=") then constArgument g

/-- A parameter of a binder. -/
def binderParameter : Reader Unit := do
  _ ← outerAttrs g
  if ← sees .name then
    typeParameter g
    typeDefault g
  else if ← sees .lifetime then lifetimeParameter g
  else if ← sees (.word "const") then
    constParameter g
    constDefault g
  else missingAny [.name, .lifetime, .word "const"]

/-- Reads a parameter; answers with its parts and writes nothing. -/
def parameter : Reader Parameter := do
  let ((), attrs) ← captured do
    _ ← outerAttrs g
  if ← sees .lifetime then
    let ((), tokens) ← captured (lifetimeParameter g)
    return ⟨true, attrs ++ tokens, [], false⟩
  else if ← sees .name then
    let ((), tokens) ← captured (typeParameter g)
    let ((), default) ← captured (typeDefault g)
    return ⟨false, attrs ++ tokens, default, false⟩
  else if ← sees (.word "const") then
    let ((), tokens) ← captured (constParameter g)
    let ((), default) ← captured (constDefault g)
    return ⟨false, attrs ++ tokens, default, false⟩
  else if ← sees (.word "_") then
    let ((), tokens) ← captured (read (.word "_"))
    return ⟨false, attrs ++ tokens, [], false⟩
  else missingAny [.lifetime, .name, .word "const"]

def parametersUpTo : Nat → Reader (List Parameter)
  | 0 => return []
  | rounds + 1 => do
    if ← sees (.mark ">") then return []
    let first ← parameter g
    if ← sees (.mark ">") then return [first]
    pass (.mark ",")
    let more ← parametersUpTo rounds
    return { first with comma := true } :: more

/-- Parameters between angle brackets, if there are some. Nothing is written. -/
def parameters : Reader (List Parameter) := do
  if !(← sees (.mark "<")) then return []
  let (found, _) ← captured do
    read (.mark "<")
    let found ← parametersUpTo g ((← get).rest.length + 1)
    read (.mark ">")
    return found
  return found

def generics : Reader (List Parameter) := do
  let found ← parameters g
  write (parameterTokens found)
  return found

/-- Whether an angle bracket starts parameters and not a type. -/
def startsParameters (tokens : List Token) : Bool :=
  let second := skip tokens
  let third := skip second
  (Piece.mark "<").starts tokens &&
    ((Piece.mark ">").starts second || (Piece.mark "#").starts second ||
      ((Piece.lifetime.starts second || Piece.name.starts second) &&
        ((Piece.mark ">").starts third || (Piece.mark ",").starts third ||
          ((Piece.mark ":").starts third && !(Piece.mark "::").starts third) ||
          (Piece.mark "=").starts third)) ||
      (Piece.word "const").starts second)

/-! Conditions. -/

def endsConditions : Reader Bool := do
  return (← atEnd) || (← seesAny [.group .brace, .mark ",", .mark ";", .mark "="]) ||
    (← seesOnly ":" ["::"])

def condition : Reader Unit := do
  if (← sees .lifetime) && (← seesSecond (.mark ":")) then
    read .lifetime
    read (.mark ":")
    lifetimesUpTo do
      return (← atEnd) || (← seesAny [.group .brace, .mark ",", .mark ";", .mark ":", .mark "="])
  else
    _ ← binderIf g
    _ ← g.type true
    read (.mark ":")
    boundsUpTo g endsConditions

/-- Conditions behind `where`, if it stands here; answers whether it does. -/
def conditions : Reader Bool := do
  if ← sees (.word "where") then
    let ((), tokens) ← captured do
      read (.word "where")
      if startsParameters (← get).rest then missingGenerics
      loop do
        if ← endsConditions then return false
        condition g
        readIf (.mark ",")
    if 1 < tokens.length then write tokens
    return true
  else return false
where
  missingGenerics : Reader Unit := refuse .genericConditions

end MqttRouting.Attribute.Grammar
