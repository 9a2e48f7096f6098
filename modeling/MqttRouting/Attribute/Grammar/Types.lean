import MqttRouting.Attribute.Grammar.Generics

/-!
Types. Where a plus sign would be ambiguous, it does not belong to a type.
-/

namespace MqttRouting.Attribute.Grammar

variable (g : Nested)

/-- Bounds in the place of a type. One of them has to be a trait. -/
def objectBounds (plus : Bool) : Reader Unit := do
  let kinds ← bounds g plus false false
  if !kinds.contains .traitName then refuse .objectWithoutTrait

/-- Further bounds behind a type that is one itself. -/
def plusBounds : Reader Unit :=
  loop do
    if !(← readIf (.mark "+")) then return false
    _ ← g.bound false false
    return true

/-- Further types of a tuple, from the first comma on. -/
def tupleRest : Reader Unit := do
  read (.mark ",")
  commaList (g.type true)

inductive ParenKind where
  | finished (kind : TypeKind)
  | bound
  | inner (kind : TypeKind)

/-- What stands between the parentheses of a type. -/
def parenContents : Reader ParenKind := do
  if ← atEnd then return .finished .other
  else if ← sees .lifetime then
    objectBounds g true
    return .finished .paren
  else if ← sees (.mark "?") then
    _ ← traitBound g false
    return .bound
  else
    let kind ← g.type true
    if ← sees (.mark ",") then
      tupleRest g
      return .finished .other
    else return .inner kind

def parenType (plus : Bool) : Reader TypeKind := do
  match ← within .paren (parenContents g) with
  | .finished kind => return kind
  | .bound =>
    let more ← sees (.mark "+")
    plusBounds g
    return .bounds (!more)
  | .inner kind =>
    let isBound :=
      match kind with
      | .path _ | .bounds true => true
      | _ => false
    if plus && isBound && (← sees (.mark "+")) then
      plusBounds g
      return .bounds false
    else return .paren

/-- Bounds behind a path, the first of them. -/
def pathBounds (plus : Bool) : Reader Bool := do
  if plus && (← sees (.mark "+")) then
    loop do
      if !(← readIf (.mark "+")) then return false
      if !(← seesBoundStart) then return false
      _ ← g.bound false false
      return true
    return false
  else return true

/-- A path as a type; `bound` when a binder stands in front of it. -/
def namedType (plus bound : Bool) : Reader TypeKind := do
  let shape ← typePath g
  if shape.qualified then return .other
  else if (← seesBang) && shape.plain then
    _ ← invocation
    return .other
  else if bound || (plus && (← sees (.mark "+"))) then
    return .bounds (← pathBounds g plus)
  else return .path shape.isSingle

/-! Functions as types. -/

def abi : Reader Unit := do
  if ← readIf (.word "extern") then _ ← readIf .text

/-- Points for further arguments, possibly with a name. -/
def seesVariadic : Reader Bool := do
  return (← sees (.mark "...")) ||
    ((← seesAny [.name, .word "_"]) && (← seesSecond (.mark ":")) && (← seesThird (.mark "...")))

def variadic : Reader Unit := do
  if ← seesAny [.name, .word "_"] then
    _ ← readWord
    read (.mark ":")
  read (.mark "...")
  _ ← readIf (.mark ",")

/-- An argument of a function type. The first may be a receiver, which is kept as it is. -/
def functionArgument (first : Bool) : Reader Unit := do
  _ ← outerAttrs g
  let start ← get
  let changing := first && (← sees (.word "mut")) && (← seesSecond (.word "self"))
  if changing then read (.word "mut")
  let own := first && (← sees (.word "self"))
  let named := ((← seesAny [.name, .word "_"]) || own) &&
    (Piece.mark ":").starts (skip (← get).rest) && !(Piece.mark "::").starts (skip (← get).rest)
  if named then
    _ ← readWord
    read (.mark ":")
  if first && !(named && own) && (← sees (.word "mut")) && (← seesSecond (.word "self")) then
    read (.word "mut")
    read (.word "self")
    takeSince start
  else if changing && !named then
    read (.word "self")
    takeSince start
  else
    _ ← g.type true
    if changing then takeSince start

def functionArguments : Reader Unit := do
  let count := (← get).rest.length
  loop do
    if ← atEnd then return false
    let first := (← get).rest.length = count
    _ ← outerAttrs g
    if ← seesVariadic then
      variadic
      return false
    functionArgument g first
    if ← atEnd then return false
    read (.mark ",")
    return true

def functionType : Reader Unit := do
  _ ← binderIf g
  _ ← readIf (.word "unsafe")
  abi
  read (.word "fn")
  within .paren (functionArguments g)
  _ ← result g false

/-! All types. -/

def pointerType : Reader Unit := do
  read (.mark "*")
  if ← sees (.word "const") then read (.word "const")
  else if ← sees (.word "mut") then read (.word "mut")
  else missingAny [.word "const", .word "mut"]
  _ ← g.type false

def referenceType : Reader Unit := do
  read (.mark "&")
  _ ← readIf .lifetime
  _ ← readIf (.word "mut")
  _ ← g.type false

def listType : Reader Unit :=
  within .bracket do
    _ ← g.type true
    if ← readIf (.mark ";") then _ ← g.expr true

def opaqueType (plus : Bool) : Reader Unit := do
  read (.word "impl")
  let kinds ← bounds g plus true true
  if !kinds.contains .traitName then refuse .implWithoutTrait

/-- A type behind `dyn`. One with a star is kept as it is. -/
def dynType (plus : Bool) : Reader Unit := do
  let start ← get
  read (.word "dyn")
  let starred ← readIf (.mark "*")
  objectBounds g plus
  if starred then takeSince start

/-- What may follow a binder. -/
def binderFollowers : List Piece :=
  [.name, .word "fn", .word "unsafe", .word "extern", .word "super", .word "self", .word "Self",
    .word "crate"]

def typeStarts : List Piece :=
  [.word "for", .group .paren, .word "fn", .word "unsafe", .word "extern", .name, .mark "::",
    .mark "<", .word "dyn", .group .bracket, .mark "*", .mark "&", .mark "!", .word "impl",
    .word "_", .lifetime]

def typeOf (plus : Bool) : Reader TypeKind := do
  let bound ← binderIf g
  if bound && !(← seesAny binderFollowers) then missingAny binderFollowers
  else if ← sees (.group .paren) then parenType g plus
  else if ← seesAny [.word "fn", .word "unsafe", .word "extern"] then
    functionType g
    return .other
  else if ← seesAny (.name :: placeWords ++ [.mark "::", .mark "<"]) then namedType g plus bound
  else if ← sees (.word "dyn") then
    dynType g plus
    return .other
  else if ← sees (.group .bracket) then
    listType g
    return .other
  else if ← sees (.mark "*") then
    pointerType g
    return .other
  else if ← sees (.mark "&") then
    referenceType g
    return .reference
  else if ← sees (.mark "!") then
    read (.mark "!")
    return .other
  else if ← sees (.word "impl") then
    opaqueType g plus
    return .implTrait
  else if ← sees (.word "_") then
    read (.word "_")
    return .other
  else if ← sees .lifetime then
    objectBounds g true
    return .bounds false
  else missingAny typeStarts

end MqttRouting.Attribute.Grammar
