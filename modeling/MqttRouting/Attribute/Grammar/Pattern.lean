import MqttRouting.Attribute.Grammar.Types

/-!
Patterns. A range up to an end that is left out stands for all that is left, and three
points in a range are written as two and an equals sign.
-/

namespace MqttRouting.Attribute.Grammar

variable (g : Nested)

def points : List Token := [.punct '.' true, .punct '.' false]

def closedPoints : List Token := [.punct '.' true, .punct '.' true, .punct '=' false]

/-- The points of a range; answers whether its end belongs to it. -/
def rangePoints : Reader Bool := do
  if ← sees (.mark "..=") then
    read (.mark "..=")
    return true
  else if ← sees (.mark "...") then missingAny [.mark "..="]
  else if ← sees (.mark "..") then
    read (.mark "..")
    return false
  else missingAny [.mark ".."]

/-- The points of a range in the older form as well. -/
def olderRangePoints : Reader Bool := do
  if (← sees (.mark "...")) && !(← sees (.mark "..=")) then
    drop 3
    write closedPoints
    return true
  else rangePoints

/-- What ends a pattern. -/
def endsPattern : Reader Bool := do
  return (← atEnd) || (← seesAny [.mark "|", .mark "=", .mark ",", .mark ";", .word "if"]) ||
    (← seesOnly ":" ["::"])

def constBlock : Reader Unit := do
  read (.word "const")
  block g

/-- One end of a range, or a pattern that is a single value. -/
def patternValue : Reader Unit := do
  if ← sees .literal then read .literal
  else if ← seesAny [.name, .mark "::", .mark "<", .word "self", .word "Self", .word "super",
      .word "crate"] then
    _ ← qualifiedPath g true
  else if ← sees (.word "const") then constBlock g
  else
    missingAny [.literal, .name, .mark "::", .mark "<", .word "self", .word "Self",
      .word "super", .word "crate", .word "const"]

/-- The points of a range behind its start, and its end. -/
def rangeBehind : Reader PatternKind := do
  let closed ← olderRangePoints
  if ← endsPattern then
    if closed then missingPiece "range upper bound" else return .openRange
  else
    patternValue g
    return .other

/-- A range without a start. -/
def rangeUpTo : Reader PatternKind := do
  let closed ← rangePoints
  if ← endsPattern then
    if closed then missingPiece "range upper bound" else return .rest
  else
    patternValue g
    return .openRange

def valuePattern : Reader PatternKind := do
  patternValue g
  if ← sees (.mark "..") then rangeBehind g else return .other

/-- Patterns with bars between them, behind the first one. -/
def alternatives (kind : PatternKind) (barred : Bool) : Reader PatternKind := do
  let more ← seesOnly "|" ["||", "|="]
  loop do
    if !(← seesOnly "|" ["||", "|="]) then return false
    read (.mark "|")
    _ ← g.pattern
    return true
  return if barred || more then .other else kind

/-- A pattern that may have alternatives. A bar may stand in front. -/
def anyPattern : Reader PatternKind := do
  let barred ← readIf (.mark "|")
  let kind ← g.pattern
  alternatives g kind barred

/-! Fields. -/

/-- The number of a field, which is written in decimal. -/
def indexOf (negative : Bool) (source : String) : Except SyntaxError Nat :=
  match Literal.wholeParts? source with
  | none => .error (.expected .whole)
  | some (n, suffix) =>
    if !suffix.isEmpty then .error (.refused .suffixedIndex)
    else if negative then .error (.refused .negativeIndex)
    else if 0xFFFFFFFF < n then .error (.refused .indexTooLarge)
    else .ok n

def isWhole (source : String) : Bool := (Literal.whole? source).isSome

/-- A field by its name or number; answers whether it has a name. -/
def fieldName : Reader Bool := do
  match (← get).rest with
  | .ident s :: _ =>
    if isKeyword s then missingPiece "identifier or integer"
    else
      take 1
      return true
  | .literal s :: _ => numbered false s 1
  | .punct '-' _ :: .literal s :: _ => numbered true s 2
  | _ => missingPiece "identifier or integer"
where
  numbered (negative : Bool) (source : String) (width : Nat) : Reader Bool := do
    if isWhole source then
      let n ← indexOf negative source
      drop width
      write [.literal (toString n)]
      return false
    else missingPiece "identifier or integer"

def fieldPattern : Reader Unit := do
  let start ← get
  let boxed ← readIf (.word "box")
  let byRef ← readIf (.word "ref")
  let changing ← readIf (.word "mut")
  let marked := boxed || byRef || changing
  let named ←
    if marked then
      read .name
      pure true
    else fieldName
  if (!marked && (← sees (.mark ":"))) || !named then
    read (.mark ":")
    _ ← anyPattern g
  else if boxed then takeSince start

def fieldPatterns : Reader Unit :=
  loop do
    if ← atEnd then return false
    _ ← outerAttrs g
    if ← readIf (.mark "..") then return false
    fieldPattern g
    if ← atEnd then return false
    read (.mark ",")
    return true

/-! Groups. -/

def patternList : Reader Unit := commaList (anyPattern g)

def slicePattern : Reader Unit :=
  within .bracket <| commaList do
    if (← anyPattern g) = .openRange then refuse .rangeInSlice

/-! All patterns. -/

/-- A pattern that begins with a path. -/
def pathPattern : Reader PatternKind := do
  let shape ← qualifiedPath g true
  if !shape.qualified && (← seesBang) && shape.plain then
    _ ← invocation
    return .other
  else if ← sees (.group .brace) then
    within .brace (fieldPatterns g)
    return .other
  else if ← sees (.group .paren) then
    within .paren (patternList g)
    return .other
  else if ← sees (.mark "..") then rangeBehind g
  else return .other

def namePattern : Reader PatternKind := do
  readWordsIf ["ref", "mut"]
  if ← sees (.word "self") then read (.word "self") else read .name
  if ← readIf (.mark "@") then _ ← g.pattern
  return .other

/-- What a pattern may start with. Three points are not even the start of a range. -/
def patternStarts (ranges : Bool) : List Piece :=
  [.name, .mark "::", .mark "<", .word "_", .literal, .word "const", .word "ref", .word "mut",
    .mark "&", .group .paren, .group .bracket] ++
    (if ranges then [.mark ".."] else []) ++ [.word "const"]

/-- Whether a name starts a path and is no variable. -/
def seesPathPattern : Reader Bool := do
  let rest := (← get).rest
  let second := skip rest
  let behind : List Piece :=
    [.mark "::", .mark "!", .group .brace, .group .paren, .mark ".."]
  return (Piece.name.starts rest && behind.any (·.starts second)) ||
    ((Piece.word "self").starts rest && (Piece.mark "::").starts second) ||
    [Piece.mark "::", .mark "<", .word "Self", .word "super", .word "crate"].any (·.starts rest)

def patternOf : Reader PatternKind := do
  if ← seesPathPattern then pathPattern g
  else if ← sees (.word "_") then
    read (.word "_")
    return .other
  else if ← sees (.word "box") then
    verbatim do
      read (.word "box")
      _ ← g.pattern
    return .other
  else if ← seesAny [.mark "-", .literal, .word "const"] then valuePattern g
  else if ← seesAny [.word "ref", .word "mut", .word "self", .name] then namePattern g
  else if ← sees (.mark "&") then
    read (.mark "&")
    _ ← readIf (.word "mut")
    _ ← g.pattern
    return .other
  else if ← sees (.group .paren) then
    within .paren (patternList g)
    return .other
  else if ← sees (.group .bracket) then
    slicePattern g
    return .other
  else if ← seesOnly ".." ["..."] then rangeUpTo g
  else missingAny (patternStarts !(← sees (.mark "...")))

end MqttRouting.Attribute.Grammar
