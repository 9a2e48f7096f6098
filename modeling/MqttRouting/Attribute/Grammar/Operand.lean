import MqttRouting.Attribute.Grammar.Expr

/-!
Operands: expressions between operators, with the marks in front of them, and expressions
that end early because they can stand as statements.
-/

namespace MqttRouting.Attribute.Grammar

variable (g : Nested)

/-! Expressions that start with a keyword. -/

def labeled : Reader ExprKind := do
  read .lifetime
  read (.mark ":")
  if ← sees (.word "while") then whileExpr g
  else if ← sees (.word "for") then forExpr g
  else if ← sees (.word "loop") then loopExpr g
  else if ← sees (.group .brace) then block g
  else missingPiece "loop or block expression"
  return .block

/-- A value that may be left out. -/
def valueIf (structs : Bool) : Reader Unit := do
  if (← seesExpr) && (structs || !(← sees (.group .brace))) then _ ← g.expr structs

def breakExpr (structs : Bool) : Reader Unit := do
  read (.word "break")
  if ← sees .lifetime then
    if ← seesSecond (.mark ":") then
      _ ← g.expr true
      refuse .labelNeedsParentheses
    read .lifetime
  valueIf g structs

/-- `return` and `yield` with their values. -/
def leaving (word : String) : Reader Unit := do
  read (.word word)
  if ← seesExpr then _ ← g.expr true

def letExpr (structs : Bool) : Reader Unit := do
  read (.word "let")
  _ ← anyPattern g
  read (.mark "=")
  let kind ← g.operand structs
  _ ← g.operators structs .compare kind

def asyncBlock : Reader Unit := do
  read (.word "async")
  _ ← readIf (.word "move")
  plainBlock g

def unsafeBlock : Reader Unit := do
  read (.word "unsafe")
  block g

def tryBlock : Reader Unit := do
  read (.word "try")
  plainBlock g

/-- Something that is built in, which is kept as it is. -/
def builtinExpr : Reader Unit :=
  verbatim do
    read (.word "builtin")
    read (.mark "#")
    read .name
    match (← get).rest with
    | .group .paren _ :: _ => take 1
    | _ => missingPiece (Piece.groupTitle .paren)

/-! Arms. -/

/-- Whether something has to be separated from what follows it. -/
def ExprKind.needsComma (kind : ExprKind) : Bool := kind ≠ .block

/-- Whether something has to end in a semicolon. -/
def ExprKind.needsSemicolon : ExprKind → Bool
  | .block | .invocation .brace => false
  | .invocation _ | .range | .comparison | .other => true

def arm : Reader Unit := do
  _ ← outerAttrs g
  _ ← anyPattern g
  if ← readIf (.word "if") then _ ← g.expr true
  read (.mark "=>")
  let kind ← g.early
  if kind.needsComma && !(← atEnd) then read (.mark ",") else _ ← readIf (.mark ",")

def matchExpr : Reader Unit := do
  read (.word "match")
  headExpr g
  within .brace do
    _ ← innerAttrs g
    loop do
      if ← atEnd then return false
      arm g
      return true

/-! One piece. -/

def seesAsyncBlock : Reader Bool := do
  return (← sees (.word "async")) &&
    ((← seesSecond (.group .brace)) ||
      ((← seesSecond (.word "move")) && (← seesThird (.group .brace))))

def seesPathExpr : Reader Bool := do
  return (← seesAny (.name :: .mark "::" :: .mark "<" :: placeWords)) ||
    ((← sees (.word "try")) && ((← seesSecond (.mark "!")) || (← seesSecond (.mark "::"))))

def atom (structs : Bool) : Reader ExprKind := do
  let plain (reader : Reader Unit) : Reader ExprKind := do
    reader
    return .other
  let blockLike (reader : Reader Unit) : Reader ExprKind := do
    reader
    return .block
  if ← sees .literal then plain (read .literal)
  else if ← seesAsyncBlock then plain (asyncBlock g)
  else if (← sees (.word "try")) && (← seesSecond (.group .brace)) then blockLike (tryBlock g)
  else if ← seesClosure then plain (closure g structs)
  else if (← sees (.word "builtin")) && (← seesSecond (.mark "#")) then plain builtinExpr
  else if ← seesPathExpr then pathExpr g structs
  else if ← sees (.group .paren) then plain (parenExpr g)
  else if ← sees (.word "break") then plain (breakExpr g structs)
  else if ← sees (.word "continue") then
    plain do
      read (.word "continue")
      _ ← readIf .lifetime
  else if ← sees (.word "return") then plain (leaving g "return")
  else if ← sees (.word "become") then
    plain <| verbatim do
      read (.word "become")
      _ ← g.expr true
  else if ← sees (.group .bracket) then plain (listExpr g)
  else if ← sees (.word "let") then plain (letExpr g structs)
  else if ← sees (.word "if") then blockLike (ifExpr g)
  else if ← sees (.word "while") then blockLike (whileExpr g)
  else if ← sees (.word "for") then blockLike (forExpr g)
  else if ← sees (.word "loop") then blockLike (loopExpr g)
  else if ← sees (.word "match") then blockLike (matchExpr g)
  else if ← sees (.word "yield") then plain (leaving g "yield")
  else if ← sees (.word "unsafe") then blockLike (unsafeBlock g)
  else if ← sees (.word "const") then blockLike (constBlock g)
  else if ← sees (.group .brace) then blockLike (block g)
  else if ← sees (.mark "..") then
    let closed ← rangePoints
    rangeEnd g structs closed
    return .range
  else if ← sees (.word "_") then plain (read (.word "_"))
  else if ← sees .lifetime then labeled g
  else missingPiece "an expression"

/-! Operands. -/

def referenceMarks : Reader Unit := do
  read (.mark "&")
  let raw := (← sees (.word "raw")) &&
    ((← seesSecond (.word "mut")) || (← seesSecond (.word "const")))
  if raw then read (.word "raw")
  let changing ← readIf (.word "mut")
  if raw && !changing then read (.word "const")

def operandOf (structs : Bool) : Reader ExprKind := do
  let attrs ← outerAttrs g
  if ← sees (.mark "&") then
    referenceMarks
    _ ← g.operand structs
    return .other
  else if ← seesAny [.mark "*", .mark "!", .mark "-"] then
    take 1
    _ ← g.operand structs
    return .other
  else
    let kind ← atom g structs
    let kind ← trailers g kind
    if !attrs.isEmpty && kind = .range then refuse .attributesOnRange else return kind

/-! Expressions that can stand as statements. -/

/-- What ends in a block, if it starts here. -/
def blockExpr? : Reader (Option (Reader Unit)) := do
  if ← sees (.word "if") then return some (ifExpr g)
  else if ← sees (.word "while") then return some (whileExpr g)
  else if (← sees (.word "for")) && !(← startsBinderAfterWord) then return some (forExpr g)
  else if ← sees (.word "loop") then return some (loopExpr g)
  else if ← sees (.word "match") then return some (matchExpr g)
  else if (← sees (.word "try")) && (← seesSecond (.group .brace)) then return some (tryBlock g)
  else if ← sees (.word "unsafe") then return some (unsafeBlock g)
  else if (← sees (.word "const")) && (← seesSecond (.group .brace)) then
    return some (constBlock g)
  else if ← sees (.group .brace) then return some (block g)
  else return none

/-- An expression that ends behind its block if it begins with one, unless a point or a
question mark follows. -/
def earlyExpr : Reader ExprKind := do
  _ ← outerAttrs g
  let kind ←
    match ← blockExpr? g with
    | some reader =>
      reader
      pure ExprKind.block
    | none => if ← sees .lifetime then labeled g else g.operand true
  if kind ≠ .block then operatorsBehind g true .lowest kind
  else if (← seesOnly "." [".."]) || (← sees (.mark "?")) then
    let kind ← trailers g kind
    operatorsBehind g true .lowest kind
  else return kind

end MqttRouting.Attribute.Grammar
