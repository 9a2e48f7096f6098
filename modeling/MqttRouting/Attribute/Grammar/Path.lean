import MqttRouting.Attribute.Attr
import MqttRouting.Attribute.Grammar.Nested
import MqttRouting.Attribute.Parameter

/-!
Paths with their arguments, attributes, and blocks.
-/

namespace MqttRouting.Attribute.Grammar

/-! Paths of plain names. -/

/-- Keywords that name a place. -/
def placeWords : List Piece := [.word "super", .word "self", .word "Self", .word "crate"]

def seesPathWord : Reader Bool := do
  return (← sees .name) || (← seesAny placeWords)

def wordsPath : Reader Unit := do
  _ ← readIf (.mark "::")
  if !(← seesPathWord) then read .name
  else
    _ ← readWord
    loop do
      if !(← readIf (.mark "::")) then return false
      if !(← seesPathWord) then missingPiece "path segment after `::`"
      else
        _ ← readWord
        return true

/-- A group of any kind, whose tokens are kept. -/
def anyGroup : Reader Delimiter := do
  match (← get).rest with
  | .group d _ :: _ =>
    take 1
    return d
  | _ => missingPiece "delimiter"

/-! Lists between angle brackets. -/

/-- Entries with commas between them up to an angle bracket. Answers in reverse. -/
def entriesUpTo (entry : Reader Bool) : Nat → List Entry → Reader (List Entry)
  | 0, done => return done
  | rounds + 1, done => do
    if ← sees (.mark ">") then return done
    let (isLifetime, tokens) ← captured entry
    if ← sees (.mark ">") then return ⟨isLifetime, tokens, false⟩ :: done
    pass (.mark ",")
    entriesUpTo entry rounds (⟨isLifetime, tokens, true⟩ :: done)

/-- Entries between angle brackets, of which the first has been read. -/
def angleEntries (entry : Reader Bool) : Reader (List Entry) := do
  let done ← entriesUpTo entry ((← get).rest.length + 1) []
  return done.reverse

variable (g : Nested)

/-! Attributes. -/

/-- The value of an attribute. A literal that stands alone is taken as it is. -/
def attrValue : Reader Unit := do
  let alone ← ahead do
    read .literal
    atEnd
  if alone = some true then read .literal
  else if (← sees (.mark "#")) && (← seesSecond (.group .bracket)) then
    refuse .attributeInAttribute
  else
    _ ← g.expr true

def attrArgs : Reader AttrArgs := do
  match (← get).rest with
  | .group d tokens :: _ =>
    take 1
    return .list d tokens
  | _ =>
    if ← readIf (.mark "=") then
      let ((), tokens) ← captured (attrValue g)
      write tokens
      return .value tokens
    else return .none

/-- What stands in the brackets of an attribute. -/
def attrBody (inner : Bool) : Reader Attr := do
  let ((), path) ← captured do
    if ← sees (.word "unsafe") then read (.word "unsafe") else wordsPath
  write path
  let args ← attrArgs g
  return ⟨path, args, inner⟩

/-- Attributes in front of something. -/
def outerAttrsUpTo : Nat → Reader (List Attr)
  | 0 => return []
  | rounds + 1 => do
    if !(← sees (.mark "#")) then return []
    read (.mark "#")
    let first ← within .bracket (attrBody g false)
    let more ← outerAttrsUpTo rounds
    return first :: more

def outerAttrs : Reader (List Attr) := do
  outerAttrsUpTo g ((← get).rest.length + 1)

/-- Attributes inside of something. -/
def innerAttrsUpTo : Nat → Reader (List Attr)
  | 0 => return []
  | rounds + 1 => do
    if !((← sees (.mark "#")) && (← seesSecond (.mark "!"))) then return []
    read (.mark "#")
    read (.mark "!")
    let first ← within .bracket (attrBody g true)
    let more ← innerAttrsUpTo rounds
    return first :: more

def innerAttrs : Reader (List Attr) := do
  innerAttrsUpTo g ((← get).rest.length + 1)

/-! Blocks. -/

/-- A block, before whose statements attributes may stand. -/
def block : Reader Unit :=
  within .brace do
    _ ← innerAttrs g
    g.statements

/-- A block of statements only. -/
def plainBlock : Reader Unit := within .brace g.statements

/-! Paths with arguments. -/

/-- What is known of a path. -/
structure PathShape where
  segments : Nat := 0
  /-- Whether it begins with two colons. -/
  rooted : Bool := false
  /-- Whether it begins with a type in angle brackets. -/
  qualified : Bool := false
  /-- Whether no segment has arguments. -/
  plain : Bool := true
  /-- Whether the last segment has none. -/
  bare : Bool := true
  /-- Whether some arguments are in parentheses. -/
  called : Bool := false

def PathShape.push (s : PathShape) (bare : Bool) : PathShape :=
  { s with segments := s.segments + 1, plain := s.plain && bare, bare }

/-- Whether it is one name, whose arguments are not in parentheses. -/
def PathShape.isSingle (s : PathShape) : Bool :=
  s.segments == 1 && !s.rooted && !s.qualified && !s.called

/-- A constant in the place of a type: a literal, a name or a block. -/
def constArgument : Reader Unit := do
  if ← sees .literal then read .literal
  else if ← sees .name then read .name
  else if ← sees (.group .brace) then block g
  else throw (.unexpected (← atEnd))

/-- Bounds with plus signs between them, up to what ends them. -/
def boundsUpTo (ends : Reader Bool) : Reader Unit :=
  loop do
    if ← ends then return false
    _ ← g.bound false true
    readIf (.mark "+")

/-- An argument between angle brackets; answers whether it is a lifetime. -/
def argument : Reader Bool := do
  if (← sees .lifetime) && !(← seesSecond (.mark "+")) then
    read .lifetime
    return true
  else if ← seesAny [.literal, .group .brace] then
    constArgument g
    return false
  else
    let kind ← g.type true
    if kind = .path true then
      if ← readIf (.mark "=") then
        if ← seesAny [.literal, .group .brace] then constArgument g
        else _ ← g.type true
      else if ← readIf (.mark ":") then
        boundsUpTo g (seesAny [.mark ",", .mark ">"])
    return false

def angleArguments : Reader Unit := do
  _ ← readIf (.mark "::")
  read (.mark "<")
  write (lifetimesFirst (← angleEntries (argument g)))
  read (.mark ">")

/-- A segment of a path; answers whether it has no arguments. In expressions, arguments
stand behind two colons only. -/
def segment (inExpr : Bool) : Reader Bool := do
  if ← seesAny [.word "super", .word "self", .word "crate", .word "try"] then
    _ ← readWord
    return true
  else
    if ← sees (.word "Self") then read (.word "Self") else read .name
    if (!inExpr && (← seesOnly "<" ["<="])) ||
        ((← sees (.mark "::")) && (← seesThird (.mark "<"))) then
      angleArguments g
      return false
    else return true

/-- Further segments of a path. -/
def moreSegments (inExpr : Bool) : Nat → PathShape → Reader PathShape
  | 0, shape => return shape
  | rounds + 1, shape => do
    if (← sees (.mark "::")) && !(← seesThird (.group .paren)) then
      read (.mark "::")
      moreSegments inExpr rounds (shape.push (← segment g inExpr))
    else return shape

def path (inExpr : Bool) : Reader PathShape := do
  let rooted ← readIf (.mark "::")
  let shape : PathShape := { rooted }
  let shape := shape.push (← segment g inExpr)
  moreSegments g inExpr ((← get).rest.length + 1) shape

/-- Segments behind a type in angle brackets. -/
def qualifiedSegments (inExpr : Bool) : Nat → PathShape → Reader PathShape
  | 0, shape => return shape
  | rounds + 1, shape => do
    let shape := shape.push (← segment g inExpr)
    if ← readIf (.mark "::") then qualifiedSegments inExpr rounds shape else return shape

/-- A path that may begin with a type in angle brackets, and a trait of that type. -/
def qualifiedPath (inExpr : Bool) : Reader PathShape := do
  if ← sees (.mark "<") then
    read (.mark "<")
    _ ← g.type true
    if ← readIf (.word "as") then _ ← path g false
    read (.mark ">")
    read (.mark "::")
    qualifiedSegments g inExpr ((← get).rest.length + 1) { qualified := true }
  else path g inExpr

/-- A result type, if there is one; answers whether another type may be named behind it. -/
def result (plus : Bool) : Reader Bool := do
  if ← sees (.mark "->") then
    read (.mark "->")
    return (← g.type plus) = .paren
  else return true

/-- Arguments in parentheses, with a result type. -/
def callArguments : Reader Bool := do
  within .paren (commaList (g.type true))
  result g false

def seesCall : Reader Bool := do
  return (← sees (.group .paren)) || ((← sees (.mark "::")) && (← seesThird (.group .paren)))

/-- Takes two colons that are not kept. -/
def dropColons : Reader Unit := do
  if ← sees (.mark "::") then drop 2

/-- Arguments in parentheses behind a path, and what follows them. -/
def callsBehind : Nat → PathShape → Reader PathShape
  | 0, shape => return shape
  | rounds + 1, shape => do
    if shape.bare && (← seesCall) then
      dropColons
      let goesOn ← callArguments g
      let shape := { shape with bare := false, plain := false, called := true }
      if goesOn then
        let shape ← moreSegments g false ((← get).rest.length + 1) shape
        callsBehind rounds shape
      else return shape
    else return shape

/-- A path in the place of a type. -/
def typePath : Reader PathShape := do
  let shape ← qualifiedPath g false
  callsBehind g ((← get).rest.length + 1) shape

/-- What is invoked, from its exclamation mark on. -/
def invocation : Reader Delimiter := do
  read (.mark "!")
  anyGroup

def seesBang : Reader Bool := seesOnly "!" ["!="]

end MqttRouting.Attribute.Grammar
