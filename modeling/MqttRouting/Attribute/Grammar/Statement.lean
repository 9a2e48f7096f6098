import MqttRouting.Attribute.Grammar.Operand

/-!
Statements. What ends in a block needs no semicolon behind it; of all else only the last
may go without.
-/

namespace MqttRouting.Attribute.Grammar

variable (g : Nested)

/-! Invocations. -/

/-- Whether something is invoked by a path, and gives a name to what it makes. -/
def seesNamedInvocation : Reader Bool := do
  let found ← ahead do
    wordsPath
    return (← sees (.mark "!")) && ((← seesSecond .name) || (← seesSecond (.word "try")))
  return found = some true

/-- Whether something is invoked with braces, and nothing is done to the result. -/
def seesBlockInvocation : Reader Bool := do
  let found ← ahead do
    wordsPath
    let goesOn := ((← seesThird (.mark ".")) && !(← seesThird (.mark ".."))) ||
      (← seesThird (.mark "?"))
    return (← sees (.mark "!")) && (← seesSecond (.group .brace)) && !goesOn
  return found = some true

/-! Items among statements. -/

/-- Words that start an item wherever a statement can stand. -/
def itemWords : List Piece :=
  ["pub", "extern", "use", "fn", "mod", "type", "struct", "enum", "trait", "impl", "macro"].map
    Piece.word

def seesSecondAny (pieces : List Piece) : Reader Bool := do
  let rest := skip (← get).rest
  return pieces.any (·.starts rest)

def seesThirdAny (pieces : List Piece) : Reader Bool := do
  let rest := skip (skip (← get).rest)
  return pieces.any (·.starts rest)

def functionWords : List Piece := [.word "unsafe", .word "extern", .word "fn"]

/-- Whether `const` starts an item, and neither a block nor a closure. -/
def seesConstItem : Reader Bool := do
  let closure ← seesSecondAny [.group .brace, .word "static", .word "move", .mark "|"]
  let waiting := (← seesSecond (.word "async")) && !(← seesThirdAny functionWords)
  return !closure && !waiting

/-- Whether a keyword starts an item because of what follows it. -/
def seesKeywordItem : Reader Bool := do
  if ← seesAny itemWords then return true
  else if ← sees (.word "crate") then return !(← seesSecond (.mark "::"))
  else if ← sees (.word "static") then seesSecondAny [.word "mut", .name]
  else if ← sees (.word "const") then seesConstItem
  else if ← sees (.word "unsafe") then return !(← seesSecond (.group .brace))
  else if ← sees (.word "async") then seesSecondAny functionWords
  else if ← sees (.word "union") then seesSecond .name
  else if ← sees (.word "auto") then seesSecond (.word "trait")
  else if ← sees (.word "default") then seesSecondAny [.word "unsafe", .word "impl"]
  else return false

/-- What a statement is, from its attributes on. -/
inductive StatementKind where
  | invocation
  | variable
  | item
  | expr

def statementKind : Reader StatementKind := do
  _ ← outerAttrs g
  if ← seesBlockInvocation then return .invocation
  else if ← sees (.word "let") then return .variable
  else if (← seesKeywordItem) || (← seesNamedInvocation) then return .item
  else return .expr

/-! Statements. -/

def blockInvocation : Reader Unit := do
  _ ← outerAttrs g
  wordsPath
  _ ← invocation
  _ ← readIf (.mark ";")

/-- Whether the last thing that was written are braces. -/
def endedInBrace : Reader Bool := do
  match (← get).written with
  | .group .brace _ :: _ => return true
  | _ => return false

def variableStatement : Reader Unit := do
  _ ← outerAttrs g
  read (.word "let")
  _ ← g.pattern
  if ← readIf (.mark ":") then _ ← g.type true
  if ← readIf (.mark "=") then
    _ ← g.expr true
    if !(← endedInBrace) && (← sees (.word "else")) then
      read (.word "else")
      plainBlock g
  read (.mark ";")

/-- Reads a statement; answers whether it has to be the last. -/
def statement : Reader Bool := do
  match ← ahead (statementKind g) with
  | some .invocation =>
    blockInvocation g
    return false
  | some .variable =>
    variableStatement g
    return false
  | some .item =>
    g.item
    return false
  | some .expr | none =>
    let kind ← g.early
    return !(← readIf (.mark ";")) && kind.needsSemicolon

def statements : Reader Unit :=
  loop do
    loop (readIf (.mark ";"))
    if ← atEnd then return false
    let last ← statement g
    if ← atEnd then return false
    if last then refuse .missingSemicolon else return true

end MqttRouting.Attribute.Grammar
