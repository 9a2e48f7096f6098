import MqttRouting.Attribute.Grammar.Pattern

/-!
Expressions. Comparisons do not associate, a cast is followed by operators only, and a
range has no range in front of it. Numbers of fields are written apart and in decimal.
-/

namespace MqttRouting.Attribute.Grammar

variable (g : Nested)

/-! Operators. -/

/-- Operators with how tight they bind; of two with one start the longer comes first. -/
def operatorTable : List (String × Precedence) :=
  [("+=", .assign), ("-=", .assign), ("*=", .assign), ("/=", .assign), ("%=", .assign),
   ("^=", .assign), ("&=", .assign), ("|=", .assign), ("<<=", .assign), (">>=", .assign),
   ("&&", .and), ("||", .or), ("<<", .shift), (">>", .shift), ("==", .compare),
   ("<=", .compare), ("!=", .compare), (">=", .compare), ("+", .sum), ("-", .sum),
   ("*", .product), ("/", .product), ("%", .product), ("^", .bitXor), ("&", .bitAnd),
   ("|", .bitOr), ("<", .compare), (">", .compare)]

def operator? (tokens : List Token) : Option (String × Precedence) :=
  operatorTable.find? fun entry => (Piece.mark entry.1).starts tokens

def seesAssign : Reader Bool := seesOnly "=" ["=>"]

/-- How tight what follows binds. -/
def nextPrecedence : Reader Precedence := do
  match operator? (← get).rest with
  | some (_, precedence) => return precedence
  | none =>
    if ← seesAssign then return .assign
    else if ← sees (.mark "..") then return .range
    else if ← sees (.word "as") then return .cast
    else return .lowest

/-- Goes on with an operand on the right while what follows binds tighter. -/
def rightUpTo (structs : Bool) (precedence : Precedence) : Nat → ExprKind → Reader Unit
  | 0, _ => pure ()
  | rounds + 1, kind => do
    let next ← nextPrecedence
    if precedence.rank < next.rank || (next = precedence && precedence = .assign) then
      let left := (← get).rest.length
      let kind ← g.operators structs next kind
      if (← get).rest.length < left then rightUpTo structs precedence rounds kind

/-- The operand on the right of an operator. -/
def rightOperand (structs : Bool) (precedence : Precedence) : Reader Unit := do
  let kind ← g.operand structs
  rightUpTo g structs precedence ((← get).rest.length + 1) kind

/-- Marks behind two points that show that a range has no end. -/
def rangeEnders : List Piece :=
  [.mark ",", .mark ";", .mark "?", .mark "=>", .mark "=", .mark "+", .mark "/", .mark "%",
    .mark "^", .mark ">", .mark "<=", .mark "!=", .mark "-=", .mark "*=", .mark "&=",
    .mark "|=", .mark "<<=", .word "as"]

def endsRange (structs : Bool) : Reader Bool := do
  return (← atEnd) || (← seesAny rangeEnders) || (← seesOnly "." [".."]) ||
    (!structs && (← sees (.group .brace)))

def rangeEnd (structs closed : Bool) : Reader Unit := do
  if !closed && (← endsRange structs) then pure () else rightOperand g structs .range

/-- A cast is followed by operators only. -/
def checkCast : Reader Unit := do
  if ← seesOnly "." [".."] then
    if ← seesSecond (.word "await") then refuse (.castFollowed "`.await`")
    else if (← seesSecond .name) &&
        ((← seesThird (.group .paren)) || (← seesThird (.mark "::"))) then
      refuse (.castFollowed "a method call")
    else refuse (.castFollowed "a field access")
  else if ← sees (.mark "?") then refuse (.castFollowed "`?`")
  else if ← sees (.group .bracket) then refuse (.castFollowed "indexing")
  else if ← sees (.group .paren) then refuse (.castFollowed "a function call")

/-- The operators behind an expression that bind as tight as `base` at least. -/
def operatorsUpTo (structs : Bool) (base : Precedence) : Nat → ExprKind → Reader ExprKind
  | 0, kind => return kind
  | rounds + 1, kind => do
    if kind = .range then return kind
    match operator? (← get).rest with
    | some (mark, precedence) =>
      if precedence.rank < base.rank then return kind
      else if precedence = .compare && kind = .comparison then refuse .chainedComparison
      else
        read (.mark mark)
        rightOperand g structs precedence
        operatorsUpTo structs base rounds (if precedence = .compare then .comparison else .other)
    | none =>
      if base.rank ≤ Precedence.assign.rank && (← seesAssign) then
        read (.mark "=")
        rightOperand g structs .assign
        operatorsUpTo structs base rounds .other
      else if base.rank ≤ Precedence.range.rank && (← sees (.mark "..")) then
        let closed ← rangePoints
        rangeEnd g structs closed
        operatorsUpTo structs base rounds .range
      else if base.rank ≤ Precedence.cast.rank && (← sees (.word "as")) then
        read (.word "as")
        _ ← g.type false
        checkCast
        operatorsUpTo structs base rounds .other
      else return kind

def operatorsBehind (structs : Bool) (base : Precedence) (kind : ExprKind) :
    Reader ExprKind := do
  operatorsUpTo g structs base ((← get).rest.length + 1) kind

def exprOf (structs : Bool) : Reader ExprKind := do
  let kind ← g.operand structs
  operatorsBehind g structs .lowest kind

/-! What may follow an operand. -/

def exprList : Reader Unit := commaList (g.expr true)

/-- The numbers in a literal with points, each behind a point of its own. Answers whether
the literal does not end in a point. -/
def splitIndices (negative : Bool) (source : String) : Reader Bool := do
  let parts := source.splitOn "."
  let trailing := parts.getLast? = some ""
  writeParts negative (if trailing then parts.dropLast else parts)
  if trailing then write [.punct '.' false]
  return !trailing
where
  writeParts (negative : Bool) : List String → Reader Unit
    | [] => pure ()
    | part :: more => do
      let n ← indexOf negative part
      write [.punct '.' false, .literal (toString n)]
      writeParts false more

/-- Behind a point: a field, a call of a method, or the keyword that waits. -/
def fieldOrCall : Reader Unit := do
  if ← readIf (.word "await") then pure ()
  else
    let named ← fieldName
    let arguments ←
      if named && (← sees (.mark "::")) then
        read (.mark "::")
        angleArguments g
        pure true
      else pure false
    if arguments || (named && (← sees (.group .paren))) then within .paren (exprList g)

/-- A point and what follows it. -/
def afterPoint : Reader Unit := do
  match (← get).rest with
  | .punct _ _ :: .literal s :: _ =>
    if Literal.isDecimal s then
      drop 2
      if !(← splitIndices false s) then fieldOrCall g
    else
      take 1
      fieldOrCall g
  | .punct _ _ :: .punct '-' _ :: .literal s :: _ =>
    if Literal.isDecimal s then
      drop 3
      if !(← splitIndices true s) then fieldOrCall g
    else
      take 1
      fieldOrCall g
  | _ =>
    read (.mark ".")
    fieldOrCall g

/-- Calls, fields, indices and question marks behind an operand. -/
def trailersUpTo : Nat → ExprKind → Reader ExprKind
  | 0, kind => return kind
  | rounds + 1, kind => do
    if ← sees (.group .paren) then
      within .paren (exprList g)
      trailersUpTo rounds .other
    else if kind ≠ .range && (← seesOnly "." [".."]) then
      afterPoint g
      trailersUpTo rounds .other
    else if ← sees (.group .bracket) then
      within .bracket do
        _ ← g.expr true
      trailersUpTo rounds .other
    else if kind ≠ .range && (← sees (.mark "?")) then
      read (.mark "?")
      trailersUpTo rounds .other
    else return kind

def trailers (kind : ExprKind) : Reader ExprKind := do
  trailersUpTo g ((← get).rest.length + 1) kind

/-! Operands of one piece. -/

/-- Whether an expression starts here. -/
def seesExpr : Reader Bool := do
  return ((← seesWord) && !(← sees (.word "as"))) ||
    (← seesAny [.group .paren, .group .bracket, .group .brace, .literal, .mark "..",
      .mark "::", .lifetime, .mark "#"]) ||
    (← seesOnly "!" ["!="]) || (← seesOnly "-" ["-=", "->"]) || (← seesOnly "*" ["*="]) ||
    (← seesOnly "|" ["|="]) || (← seesOnly "&" ["&="]) || (← seesOnly "<" ["<=", "<<="])

def fieldValue : Reader Unit := do
  _ ← outerAttrs g
  let named ← fieldName
  if (← sees (.mark ":")) || !named then
    read (.mark ":")
    _ ← g.expr true

def fieldValues : Reader Unit :=
  loop do
    if ← atEnd then return false
    if ← readIf (.mark "..") then
      if !(← atEnd) then _ ← g.expr true
      return false
    fieldValue g
    if ← atEnd then return false
    read (.mark ",")
    return true

/-- A path, what is invoked by one, or fields behind one. -/
def pathExpr (structs : Bool) : Reader ExprKind := do
  let shape ← qualifiedPath g true
  if !shape.qualified && (← seesBang) && shape.plain then
    return .invocation (← invocation)
  else if structs && (← sees (.group .brace)) then
    within .brace (fieldValues g)
    return .other
  else return .other

def parenExpr : Reader Unit := within .paren (exprList g)

def listExpr : Reader Unit :=
  within .bracket do
    if ← atEnd then return ()
    _ ← g.expr true
    if (← atEnd) || (← sees (.mark ",")) then
      if ← readIf (.mark ",") then exprList g
    else if ← readIf (.mark ";") then _ ← g.expr true
    else missingPiece "`,` or `;`"

/-! Functions without a name. -/

def startsBinderAfterWord : Reader Bool := return startsParameters (skip (← get).rest)

def seesClosure : Reader Bool := do
  return (← seesAny [.mark "|", .word "move", .word "static"]) ||
    ((← sees (.word "for")) && (← startsBinderAfterWord)) ||
    ((← sees (.word "const")) && !(← seesSecond (.group .brace))) ||
    ((← sees (.word "async")) && ((← seesSecond (.mark "|")) || (← seesSecond (.word "move"))))

def closureArgument : Reader Unit := do
  _ ← outerAttrs g
  _ ← g.pattern
  if ← readIf (.mark ":") then _ ← g.type true

def closure (structs : Bool) : Reader Unit := do
  _ ← binderIf g
  readWordsIf ["const", "static", "async", "move"]
  read (.mark "|")
  loop do
    if ← sees (.mark "|") then return false
    closureArgument g
    if ← sees (.mark "|") then return false
    read (.mark ",")
    return true
  read (.mark "|")
  if ← sees (.mark "->") then
    read (.mark "->")
    _ ← g.type true
    plainBlock g
  else _ ← g.expr structs

/-! What ends in a block. -/

/-- An expression in front of a block. -/
def headExpr : Reader Unit := do
  _ ← g.expr false

def alternativesUpTo : Nat → Reader Unit
  | 0 => pure ()
  | rounds + 1 => do
    read (.word "if")
    headExpr g
    plainBlock g
    if ← readIf (.word "else") then
      if ← sees (.word "if") then alternativesUpTo rounds
      else if ← sees (.group .brace) then plainBlock g
      else missingAny [.word "if", .group .brace]

def ifExpr : Reader Unit := do
  alternativesUpTo g ((← get).rest.length + 1)

def whileExpr : Reader Unit := do
  read (.word "while")
  headExpr g
  block g

def forExpr : Reader Unit := do
  read (.word "for")
  _ ← anyPattern g
  read (.word "in")
  headExpr g
  block g

def loopExpr : Reader Unit := do
  read (.word "loop")
  block g

end MqttRouting.Attribute.Grammar
