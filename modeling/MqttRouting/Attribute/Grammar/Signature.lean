import MqttRouting.Attribute.Grammar.Statement
import MqttRouting.Attribute.ImplBlock

/-!
Signatures of functions and methods. They are read into their parts, and nothing of them
is written.
-/

namespace MqttRouting.Attribute.Grammar

variable (g : Nested)

/-- Says for whom something is visible; answers whether anything does. Parentheses that say
nothing about that are left alone. -/
def visibility : Reader Bool := do
  if !(← readIf (.word "pub")) then return false
  match (← get).rest with
  | .group .paren [.ident name] :: _ =>
    if name = "crate" || name = "self" || name = "super" then take 1
  | .group .paren (.ident "in" :: _) :: _ =>
    within .paren do
      read (.word "in")
      wordsPath
  | _ => pure ()
  return true

/-- The words in front of `fn`; `safe` when that may be one of them, and answers whether it
is. -/
def qualifiers (safe : Bool) : Reader Bool := do
  readWordsIf ["const", "async"]
  let isUnsafe ← readIf (.word "unsafe")
  let isSafe ← if safe && !isUnsafe then readIf (.word "safe") else pure false
  abi
  return isSafe

def seesSignature (safe : Bool) : Reader Bool := do
  let found ← ahead do
    _ ← qualifiers safe
    sees (.word "fn")
  return found = some true

/-! Inputs. -/

def receiver : Reader Unit := do
  let byRef ← readIf (.mark "&")
  if byRef then _ ← readIf .lifetime
  _ ← readIf (.word "mut")
  read (.word "self")
  if !byRef && (← readIf (.mark ":")) then _ ← g.type true

/-- Points for further inputs end the inputs, but for a comma. -/
def furtherInputs : Reader Unit := do
  read (.mark "...")
  if !(← atEnd) then read (.mark ",")

inductive InputKind where
  | usual (body : InputBody)
  /-- Further inputs, with the name for them. -/
  | further (tokens : List Token)

/-- An input behind its attributes. A type alone may stand for one that is not used. -/
def inputKind : Reader InputKind := do
  if ← sees (.mark "...") then
    let ((), tokens) ← captured furtherInputs
    return .further tokens
  match ← attempt (captured (receiver g)) with
  | some ((), tokens) => return .usual (.receiver tokens)
  | none =>
    if (← sees .name) && (← seesSecond (.mark "<")) then
      let (_, type) ← captured (g.type true)
      return .usual (.typed [.ident "_"] type)
    let (_, pattern) ← captured g.pattern
    pass (.mark ":")
    if ← sees (.mark "...") then
      let ((), tokens) ← captured furtherInputs
      return .further (pattern ++ .punct ':' false :: tokens)
    let (_, type) ← captured (g.type true)
    return .usual (.typed pattern type)

structure Inputs where
  inputs : List Input := []
  trailingComma : Bool := false
  variadic : List Token := []

def Inputs.push (input : Input) (more : Inputs) : Inputs :=
  { more with
    inputs := input :: more.inputs
    trailingComma := more.trailingComma || more.inputs.isEmpty }

/-- The object that a method is called on comes first. -/
def checkPlace (first received : Bool) : InputBody → Reader Unit
  | .receiver _ =>
    if received then refuse .secondReceiver
    else if first then pure ()
    else refuse .lateReceiver
  | .typed _ _ => pure ()

def inputsFrom (first received : Bool) : Nat → Reader Inputs
  | 0 => return {}
  | rounds + 1 => do
    if ← atEnd then return {}
    let (attrs, _) ← captured (outerAttrs g)
    match ← inputKind g with
    | .further tokens => return { variadic := attrs.flatMap Attr.tokens ++ tokens }
    | .usual body =>
      checkPlace first received body
      if ← atEnd then return { inputs := [⟨attrs, body⟩] }
      pass (.mark ",")
      let more ← inputsFrom false (received || body.isReceiver) rounds
      return more.push ⟨attrs, body⟩

def inputs : Reader Inputs := do
  inputsFrom g true false ((← get).rest.length + 1)

/-! Signatures. -/

def signature (safe : Bool) : Reader Signature := do
  let (_, qualifiers) ← captured (qualifiers safe)
  pass (.word "fn")
  let (name, _) ← captured readName
  let parameters ← parameters g
  let (inputs, _) ← captured (within .paren (inputs g))
  let (_, tail) ← captured do
    _ ← result g true
    conditions g
  return ⟨qualifiers, name, parameters, inputs.inputs, inputs.trailingComma, inputs.variadic, tail⟩

end MqttRouting.Attribute.Grammar
