import MqttRouting.Attribute.Grammar.Signature

/-!
Blocks of methods and what stands in them. What has not the usual form is kept as it is.
-/

namespace MqttRouting.Attribute.Grammar

variable (g : Nested)

/-! Constants, types and invocations. -/

/-- How far a constant is from the usual form. -/
structure ConstantForm where
  hasValue : Bool
  /-- Whether it has parameters or conditions. -/
  generic : Bool

def constant : Reader ConstantForm := do
  read (.word "const")
  if ← seesAny [.name, .word "_"] then _ ← readWord else missingAny [.name, .word "_"]
  let angled ← sees (.mark "<")
  _ ← generics g
  read (.mark ":")
  _ ← g.type true
  let hasValue ← readIf (.mark "=")
  if hasValue then _ ← g.expr true
  let conditional ← conditions g
  read (.mark ";")
  return ⟨hasValue, angled || conditional⟩

/-- Bounds with plus signs between any two, up to what ends them. -/
def joinedBounds (ends : List Piece) : Reader Unit :=
  loop do
    if ← seesAny ends then return false
    _ ← g.bound false true
    if ← seesAny ends then return false
    read (.mark "+")
    return true

/-- How far the name of a type is from the usual form. -/
structure AliasForm where
  hasColon : Bool
  hasType : Bool

/-- A name for a type. Conditions may stand before the type, behind it, or in one of both
places. -/
def aliasOf (before behind : Bool) : Reader AliasForm := do
  read (.word "type")
  _ ← readName
  _ ← generics g
  let hasColon ← sees (.mark ":")
  boundsAfterColon (joinedBounds g [.word "where", .mark "=", .mark ";"])
  let conditional ← if before then conditions g else pure false
  let hasType ← readIf (.mark "=")
  if hasType then _ ← g.type true
  if behind && !conditional then _ ← conditions g
  read (.mark ";")
  return ⟨hasColon, hasType⟩

/-- What is invoked in the place of an item. Without braces it ends in a semicolon. -/
def invocationItem (named : Bool) : Reader Unit := do
  wordsPath
  read (.mark "!")
  if named then
    if ← sees (.word "try") then read (.word "try") else _ ← readIf .name
  if (← anyGroup) ≠ .brace then read (.mark ";")

/-- What an invocation in the place of an item starts with. -/
def invocationStarts : List Piece :=
  [.name, .word "self", .word "super", .word "crate", .mark "::"]

/-! Methods. -/

/-- Attributes and statements between braces. -/
def body : Reader (List Attr × List Token) := do
  let (found, _) ← captured <| within .brace do
    let (attrs, _) ← captured (innerAttrs g)
    let (_, statements) ← captured g.statements
    return (attrs, statements)
  return found

/-- A method, or none if it has no body. -/
def method? (attrs : List Attr) (marks : List Token) : Reader (Option Method) := do
  let signature ← signature g false
  if ← sees (.mark ";") then
    pass (.mark ";")
    return none
  let (inner, statements) ← body g
  return some ⟨attrs, marks, signature, inner, statements⟩

/-- What is written of an item, if it has the usual form. -/
def memberTokens (attrs : List Attr) (marks : List Token) (reader : Reader Bool) :
    Reader (Option Item) := do
  let (usual, tokens) ← captured reader
  return if usual then some (.other (attrs.flatMap Attr.tokens ++ marks ++ tokens)) else none

/-- The words in front of a member; answers whether one is `default`. -/
def memberMarks : Reader (Bool × Bool) := do
  let visible ← visibility
  let isDefault := (← sees (.word "default")) && !(← seesSecond (.mark "!"))
  if isDefault then read (.word "default")
  return (visible, isDefault)

def memberForm : Reader (Option Item) := do
  let (attrs, _) ← captured (outerAttrs g)
  let ((visible, isDefault), marks) ← captured memberMarks
  if ← seesSignature false then return (← method? g attrs marks).map Item.method
  else if ← sees (.word "const") then
    memberTokens attrs marks do
      let form ← constant g
      return form.hasValue && !form.generic
  else if ← sees (.word "type") then
    memberTokens attrs marks do
      let form ← aliasOf g false true
      return form.hasType && !form.hasColon
  else if !visible && !isDefault && (← seesAny invocationStarts) then
    memberTokens attrs marks do
      invocationItem false
      return true
  else
    missingAny <| (if isDefault then [] else [.word "default"]) ++
      [.word "fn", .word "const", .word "type"] ++
      if visible || isDefault then [] else invocationStarts

def member : Reader Item := do
  let start ← get
  match ← memberForm g with
  | some item => return item
  | none => return .other (← takenSince start)

/-! Blocks. -/

def membersUpTo : Nat → Reader (List Item)
  | 0 => return []
  | rounds + 1 => do
    if ← atEnd then return []
    let first ← member g
    let more ← membersUpTo rounds
    return first :: more

def members : Reader (List Attr × List Item) := do
  let (attrs, _) ← captured (innerAttrs g)
  let items ← membersUpTo g ((← get).rest.length + 1)
  return (attrs, items)

/-- Marks of a block for constants; answers whether there are some. -/
def constBlockMarks : Reader Bool := do
  if (← sees (.word "const")) || ((← sees (.mark "?")) && (← seesSecond (.word "const"))) then
    _ ← readIf (.mark "?")
    read (.word "const")
    return true
  else return false

/-- A type, or a trait and the type that the block is for. Answers whether a trait is what a
trait has to be. -/
def blockTypes (lenient : Bool) : Reader (Option (List Token) × List Token × Bool) := do
  let negative := (← sees (.mark "!")) && !(← seesSecond (.group .brace))
  let (_, mark) ← captured do
    if negative then read (.mark "!")
  let (kind, first) ← captured (g.type true)
  if ← sees (.word "for") then
    pass (.word "for")
    let isPath :=
      match kind with
      | .path _ => true
      | _ => false
    if !isPath && !lenient then refuse .traitPath
    let (_, selfType) ← captured (g.type true)
    return (some (mark ++ first), selfType, isPath)
  else if negative then refuse .negativeBlock
  else return (none, first, true)

/-- A block behind its parameters. -/
def blockBehind (lenient : Bool) (attrs : List Attr) (qualifiers : List Token)
    (parameters : List Parameter) : Reader (ImplBlock × Bool) := do
  let (constant, _) ← captured (if lenient then constBlockMarks else pure false)
  let (ofTrait, selfType, usual) ← blockTypes g lenient
  let (_, conditions) ← captured (conditions g)
  let ((innerAttrs, items), _) ← captured (within .brace (members g))
  return (⟨attrs, qualifiers, parameters, ofTrait, selfType, conditions, innerAttrs, items⟩,
    usual && !constant)

/-- Reads a block; answers whether it has the usual form as well. Among other items, a block
may have other forms. -/
def blockOfMethods (lenient : Bool) : Reader (ImplBlock × Bool) := do
  let (attrs, _) ← captured (outerAttrs g)
  let (visible, _) ← captured (if lenient then visibility else pure false)
  let ((), qualifiers) ← captured (readWordsIf ["default", "unsafe"])
  pass (.word "impl")
  let parameters ← if startsParameters (← get).rest then parameters g else pure []
  let (block, usual) ← blockBehind g lenient attrs qualifiers parameters
  return (block, usual && !visible)

end MqttRouting.Attribute.Grammar
