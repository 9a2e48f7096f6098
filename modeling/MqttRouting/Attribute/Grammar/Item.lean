import MqttRouting.Attribute.Grammar.Member

/-!
Items among statements. What has not the usual form is kept as it is, and nothing says for
whom the variants of a type are visible.
-/

namespace MqttRouting.Attribute.Grammar

variable (g : Nested)

/-- Functions; those without a body have not the usual form. -/
def functionItem : Reader Bool := do
  write (← signature g false).tokens
  if ← readIf (.mark ";") then return false
  block g
  return true

/-! Imports. -/

def importedName : Reader Unit := do
  _ ← readWord
  if ← readIf (.word "as") then
    if ← seesAny [.name, .word "_"] then _ ← readWord
    else missingPiece "identifier or underscore"

/-- What is imported. With two colons in front of something in braces it has not the usual
form. -/
def importedBy (rooted : Bool) : Reader Bool := do
  if ← seesAny [.name, .word "self", .word "super", .word "crate", .word "try"] then
    if ← seesSecond (.mark "::") then
      _ ← readWord
      read (.mark "::")
      g.imported false
    else
      importedName
      return true
  else if ← sees (.mark "*") then
    read (.mark "*")
    return true
  else if ← sees (.group .brace) then
    within .brace do
      importedList true ((← get).rest.length + 1)
  else
    missingAny [.name, .word "self", .word "super", .word "crate", .word "try", .mark "*",
      .group .brace]
where
  importedList (usual : Bool) : Nat → Reader Bool
    | 0 => return usual
    | rounds + 1 => do
      if ← atEnd then return usual
      let colons ← if rooted then readIf (.mark "::") else pure false
      let inner ← g.imported (rooted && !colons)
      let usual := usual && inner && !colons
      if ← atEnd then return usual
      read (.mark ",")
      importedList usual rounds

def importItem : Reader Bool := do
  read (.word "use")
  let colons ← readIf (.mark "::")
  let usual ← g.imported (!colons)
  read (.mark ";")
  return usual

def externCrate : Reader Unit := do
  read (.word "extern")
  read (.word "crate")
  if ← sees (.word "self") then read (.word "self") else read .name
  if ← readIf (.word "as") then
    if ← sees (.word "_") then read (.word "_") else read .name
  read (.mark ";")

/-! Values. -/

/-- A variable that is there from the start. Without a type or a value it has not the usual
form. -/
def staticItem : Reader Bool := do
  read (.word "static")
  _ ← readIf (.word "mut")
  read .name
  if ← readIf (.mark "=") then
    _ ← g.expr true
    read (.mark ";")
    return false
  read (.mark ":")
  _ ← g.type true
  if ← readIf (.mark ";") then return false
  read (.mark "=")
  _ ← g.expr true
  read (.mark ";")
  return true

/-! Types. -/

/-- The type of a field without a name that stands for several. -/
def anonymousFields (fields : Reader Unit) : Reader Unit :=
  verbatim do
    _ ← readWord
    fields

def namedFieldsUpTo : Nat → Reader Unit
  | 0 => pure ()
  | rounds + 1 =>
    within .brace <| commaList do
      _ ← outerAttrs g
      _ ← visibility
      let anonymous ← sees (.word "_")
      if anonymous then read (.word "_") else read .name
      read (.mark ":")
      let several := (← sees (.word "struct")) ||
        ((← sees (.word "union")) && (← seesSecond (.group .brace)))
      if anonymous && several then anonymousFields (namedFieldsUpTo rounds)
      else _ ← g.type true

/-- Fields between braces. Fields can stand in fields as deep as there are tokens. -/
def namedFields : Reader Unit := do
  namedFieldsUpTo g ((Token.wordsOf (← get).rest).length + 1)

def plainFields : Reader Unit :=
  within .paren <| commaList do
    _ ← outerAttrs g
    _ ← visibility
    g.type true

def structItem : Reader Unit := do
  read (.word "struct")
  read .name
  _ ← generics g
  let conditional ← conditions g
  if !conditional && (← sees (.group .paren)) then
    plainFields g
    let conditional ← conditions g
    if ← sees (.mark ";") then read (.mark ";")
    else missingAny ((if conditional then [] else [.word "where"]) ++ [.mark ";"])
  else if ← sees (.group .brace) then namedFields g
  else if ← sees (.mark ";") then read (.mark ";")
  else
    missingAny ((if conditional then [] else [.word "where", .group .paren]) ++
      [.group .brace, .mark ";"])

def variant : Reader Unit := do
  _ ← outerAttrs g
  let _ ← captured visibility
  read .name
  if ← sees (.group .brace) then namedFields g
  else if ← sees (.group .paren) then plainFields g
  if ← readIf (.mark "=") then _ ← g.expr true

def enumItem : Reader Unit := do
  read (.word "enum")
  read .name
  _ ← generics g
  _ ← conditions g
  within .brace (commaList (variant g))

def unionItem : Reader Unit := do
  read (.word "union")
  read .name
  _ ← generics g
  _ ← conditions g
  namedFields g

/-! Traits. -/

def traitFunction : Reader Unit := do
  write (← signature g false).tokens
  if ← sees (.group .brace) then block g
  else if ← sees (.mark ";") then read (.mark ";")
  else missingAny [.group .brace, .mark ";"]

/-- A member of a trait behind its attributes. -/
def traitMemberForm : Reader Bool := do
  let visible ← visibility
  let isDefault ← readIf (.word "default")
  let usual ←
    if ← seesSignature false then
      traitFunction g
      pure true
    else if ← sees (.word "const") then
      if ← seesSecondAny [.name, .word "_"] then
        let form ← constant g
        pure !form.generic
      else if ← seesSecondAny (.word "async" :: functionWords) then
        traitFunction g
        pure true
      else
        read (.word "const")
        missingAny ([.name, .word "_", .word "async"] ++ functionWords)
    else if ← sees (.word "type") then
      _ ← aliasOf g false true
      pure true
    else if !visible && !isDefault && (← seesAny invocationStarts) then
      invocationItem false
      pure true
    else
      missingAny ([.word "fn", .word "const", .word "type"] ++
        if visible || isDefault then [] else invocationStarts)
  return usual && !visible && !isDefault

def traitMember : Reader Unit := do
  let start ← get
  _ ← outerAttrs g
  if !(← traitMemberForm g) then takeSince start

/-- Things one after the other up to the end. -/
def everything (one : Reader Unit) : Reader Unit :=
  loop do
    if ← atEnd then return false
    one
    return true

/-- A trait behind its parameters. -/
def traitRest : Reader Unit := do
  boundsAfterColon (joinedBounds g [.word "where", .group .brace])
  _ ← conditions g
  within .brace do
    _ ← innerAttrs g
    everything (traitMember g)

def traitItem : Reader Unit := do
  readWordsIf ["unsafe", "auto"]
  read (.word "trait")
  read .name
  _ ← generics g
  traitRest g

/-- A trait, or a name for several. -/
def traitOrAlias : Reader Unit := do
  read (.word "trait")
  read .name
  _ ← generics g
  if ← seesAny [.group .brace, .mark ":", .word "where"] then traitRest g
  else if ← sees (.mark "=") then
    read (.mark "=")
    joinedBounds g [.word "where", .mark ";"]
    _ ← conditions g
    read (.mark ";")
  else missingAny [.group .brace, .mark ":", .word "where", .mark "="]

/-! What is found elsewhere. -/

def foreignFunction : Reader Bool := do
  let isSafe ← ahead (qualifiers true)
  write (← signature g true).tokens
  if ← sees (.group .brace) then
    block g
    return false
  else
    read (.mark ";")
    return isSafe ≠ some true

def foreignStatic : Reader Bool := do
  let marked := (← readIf (.word "unsafe")) || (← readIf (.word "safe"))
  read (.word "static")
  _ ← readIf (.word "mut")
  read .name
  read (.mark ":")
  _ ← g.type true
  let hasValue ← readIf (.mark "=")
  if hasValue then _ ← g.expr true
  read (.mark ";")
  return !marked && !hasValue

def foreignMemberForm : Reader Bool := do
  let visible ← visibility
  let guarded := (← seesAny [.word "unsafe", .word "safe"]) && (← seesSecond (.word "static"))
  if ← seesSignature true then foreignFunction g
  else if guarded || (← sees (.word "static")) then foreignStatic g
  else if ← sees (.word "type") then
    let form ← aliasOf g true true
    return !form.hasColon && !form.hasType
  else if !visible && (← seesAny invocationStarts) then
    invocationItem false
    return true
  else
    missingAny ([.word "fn", .word "static", .word "type"] ++
      if visible then [] else invocationStarts)

def foreignMember : Reader Unit := do
  let start ← get
  _ ← outerAttrs g
  if !(← foreignMemberForm g) then takeSince start

/-- Nothing says for whom such a block is visible. -/
def foreignBlock (visible : Bool) : Reader Unit := do
  if visible then throw (.expected (.piece (Piece.word "extern").title))
  _ ← readIf (.word "unsafe")
  read (.word "extern")
  _ ← readIf .text
  within .brace do
    _ ← innerAttrs g
    everything (foreignMember g)

def externItem (visible : Bool) : Reader Unit := do
  if ← seesSecond (.word "crate") then externCrate
  else if ← seesSecond (.group .brace) then foreignBlock g visible
  else if ← seesSecond .text then
    if ← seesThird (.group .brace) then foreignBlock g visible
    else
      take 2
      missingAny [.group .brace]
  else
    take 1
    missingAny [.word "crate", .group .brace, .text]

/-! Modules and definitions by example. -/

def moduleItem : Reader Unit := do
  _ ← readIf (.word "unsafe")
  read (.word "mod")
  if ← sees (.word "try") then read (.word "try") else read .name
  if ← sees (.mark ";") then read (.mark ";")
  else if ← sees (.group .brace) then
    within .brace do
      _ ← innerAttrs g
      everything g.item
  else missingAny [.mark ";", .group .brace]

def ruleItem : Reader Unit := do
  read (.word "macro")
  read .name
  let inputs ← sees (.group .paren)
  if inputs then take 1
  if ← sees (.group .brace) then take 1
  else missingAny ((if inputs then [] else [.group .paren]) ++ [.group .brace])

/-! All items. -/

def blockItem (visible : Bool) : Reader Bool := do
  let (b, usual) ← blockOfMethods g true
  write b.tokens
  return usual && !visible

def guardedItem (visible : Bool) : Reader Bool := do
  if (← seesSecond (.word "trait")) ||
      ((← seesSecond (.word "auto")) && (← seesThird (.word "trait"))) then
    traitItem g
    return true
  else if ← seesSecond (.word "impl") then blockItem g visible
  else if ← seesSecond (.word "extern") then
    foreignBlock g visible
    return true
  else if ← seesSecond (.word "mod") then
    moduleItem g
    return true
  else
    take 1
    missingAny [.word "trait", .word "auto", .word "impl", .word "extern", .word "mod"]

def itemStarts : List Piece :=
  ["fn", "extern", "use", "static", "const", "unsafe", "mod", "type", "struct", "enum", "union",
    "trait", "auto", "impl", "default", "macro"].map Piece.word

/-- An item behind its attributes; answers whether it has the usual form. -/
def itemForm : Reader Bool := do
  let visible ← visibility
  let usual (reader : Reader Unit) : Reader Bool := do
    reader
    return true
  if ← seesSignature false then functionItem g
  else if ← sees (.word "extern") then usual (externItem g visible)
  else if ← sees (.word "use") then importItem g
  else if ← sees (.word "static") then staticItem g
  else if ← sees (.word "const") then
    let form ← constant g
    return form.hasValue && !form.generic
  else if ← sees (.word "unsafe") then guardedItem g visible
  else if ← sees (.word "mod") then usual (moduleItem g)
  else if ← sees (.word "type") then
    let form ← aliasOf g true false
    return form.hasType && !form.hasColon
  else if ← sees (.word "struct") then usual (structItem g)
  else if ← sees (.word "enum") then usual (enumItem g)
  else if (← sees (.word "union")) && (← seesSecond .name) then usual (unionItem g)
  else if ← sees (.word "trait") then usual (traitOrAlias g)
  else if (← sees (.word "auto")) && (← seesSecond (.word "trait")) then usual (traitItem g)
  else if (← sees (.word "impl")) ||
      ((← sees (.word "default")) && !(← seesSecond (.mark "!"))) then blockItem g visible
  else if ← sees (.word "macro") then
    ruleItem
    return false
  else if !visible && (← seesAny invocationStarts) then usual (invocationItem true)
  else missingAny (itemStarts ++ if visible then [] else invocationStarts)

def item : Reader Unit := do
  let start ← get
  _ ← outerAttrs g
  if !(← itemForm g) then takeSince start

end MqttRouting.Attribute.Grammar
