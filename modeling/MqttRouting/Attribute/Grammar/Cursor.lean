import MqttRouting.Attribute.Error
import MqttRouting.Attribute.Literal

/-!
Reading tokens from left to right. A reader takes tokens, writes them as they are to be
kept, and answers with what it found out about them. Looking ahead takes nothing.
-/

namespace MqttRouting.Attribute.Grammar

structure Cursor where
  /-- The tokens that are left inside the present group. -/
  rest : List Token
  inside : Option Delimiter := none
  /-- What has been written, the last token first. -/
  written : List Token := []
  /-- The first group that was closed with tokens left over. -/
  leftOver : Option Delimiter := none

abbrev Reader (α : Type) := StateT Cursor (Except SyntaxError) α

/-! Pieces. -/

/-- The smallest things to look for. -/
inductive Piece where
  | word (name : String)
  | mark (text : String)
  /-- An identifier that is no keyword. -/
  | name
  | lifetime
  | literal
  | text
  | group (delimiter : Delimiter)

namespace Piece

def groupTitle : Delimiter → String
  | .paren => "parentheses"
  | .bracket => "square brackets"
  | .brace => "curly braces"

def title : Piece → String
  | word s | mark s => "`" ++ s ++ "`"
  | name => "identifier"
  | lifetime => "lifetime"
  | literal => "literal"
  | text => "string literal"
  | group delimiter => groupTitle delimiter

/-- Punctuation of several characters has to be written without blanks. -/
def startsMark : List Char → List Token → Bool
  | [], _ => true
  | [c], .punct c' _ :: _ => c == c'
  | c :: more, .punct c' joint :: rest => c == c' && joint && startsMark more rest
  | _ :: _, _ => false

/-- Whether tokens begin with a piece. -/
def starts : Piece → List Token → Bool
  | word s, .ident s' :: _ => s == s'
  | mark s, tokens => startsMark s.toList tokens
  | name, .ident s :: _ => !isKeyword s
  | lifetime, .punct '\'' true :: .ident _ :: _ => true
  | literal, .literal _ :: _ => true
  | literal, .ident s :: _ => s == "true" || s == "false"
  | literal, .punct '-' _ :: .literal s :: _ => Literal.isNumber s
  | text, .literal s :: _ => (Literal.text? s).isSome
  | group d, .group d' _ :: _ => d == d'
  | _, _ => false

/-- How many tokens a piece takes. -/
def width : Piece → List Token → Nat
  | mark s, _ => s.length
  | lifetime, _ => 2
  | literal, .punct _ _ :: _ => 2
  | _, _ => 1

/-- The fault of tokens that do not begin with a piece. A missing mark is not reported as
the end of the input. -/
def fault (p : Piece) (tokens : List Token) : SyntaxError :=
  match p, tokens with
  | mark _, _ => .expected (.piece p.title)
  | name, .ident s :: _ => .keyword s
  | _, [] => .endOfInput (.piece p.title)
  | _, _ :: _ => .expected (.piece p.title)

end Piece

/-! Looking ahead. -/

/-- What follows the first token. A lifetime counts as one. -/
def skip : List Token → List Token
  | .punct '\'' true :: .ident _ :: rest => rest
  | _ :: rest => rest
  | [] => []

def sees (p : Piece) : Reader Bool := return p.starts (← get).rest

def seesAny (pieces : List Piece) : Reader Bool := do
  let rest := (← get).rest
  return pieces.any (·.starts rest)

def seesSecond (p : Piece) : Reader Bool := return p.starts (skip (← get).rest)

def seesThird (p : Piece) : Reader Bool := return p.starts (skip (skip (← get).rest))

def atEnd : Reader Bool := return (← get).rest.isEmpty

/-- A name or a keyword. -/
def startsWord : List Token → Bool
  | .ident _ :: _ => true
  | _ => false

def seesWord : Reader Bool := return startsWord (← get).rest

/-- A mark that is not the start of a longer one. -/
def seesOnly (mark : String) (longer : List String) : Reader Bool := do
  let rest := (← get).rest
  return (Piece.mark mark).starts rest && !longer.any fun s => (Piece.mark s).starts rest

/-! Faults. -/

def missing {α : Type} (what : Expectation) : Reader α := do
  throw (if ← atEnd then .endOfInput what else .expected what)

def missingPiece {α : Type} (name : String) : Reader α := missing (.piece name)

/-- Nothing here can be read. Names the pieces that could stand here and do not. -/
def missingAny {α : Type} (pieces : List Piece) : Reader α := do
  let rest := (← get).rest
  missing (.oneOf ((pieces.filter (!·.starts rest)).map Piece.title))

def refuse {α : Type} (cause : Refusal) : Reader α := throw (.refused cause)

/-! Taking and writing. -/

def write (tokens : List Token) : Reader Unit :=
  modify fun c => { c with written := tokens.reverse ++ c.written }

/-- Takes tokens without writing them. -/
def drop (n : Nat) : Reader Unit :=
  modify fun c => { c with rest := c.rest.drop n }

def take (n : Nat) : Reader Unit := do
  write ((← get).rest.take n)
  drop n

def read (p : Piece) : Reader Unit := do
  let rest := (← get).rest
  if p.starts rest then take (p.width rest) else throw (p.fault rest)

/-- Reads a piece that may be left out, and says whether it was there. -/
def readIf (p : Piece) : Reader Bool := do
  if ← sees p then
    read p
    return true
  else return false

/-- Reads words that may be left out, in their order. -/
def readWordsIf : List String → Reader Unit
  | [] => pure ()
  | name :: more => do
    _ ← readIf (.word name)
    readWordsIf more

/-- Takes a name or a keyword. -/
def readWord : Reader String := do
  match (← get).rest with
  | .ident s :: _ =>
    take 1
    return s
  | _ => missingPiece "ident"

def readName : Reader String := do
  read .name
  match (← get).written with
  | .ident s :: _ => return s
  | _ => return ""

/-! Combinators. -/

/-- Reads what stands between delimiters. Tokens left over are noted for the first group
that has some. -/
def within {α : Type} (d : Delimiter) (inner : Reader α) : Reader α := do
  let outer ← get
  match outer.rest with
  | .group d' tokens :: rest =>
    if d = d' then
      let (x, c) ← inner.run { rest := tokens, inside := some d, leftOver := outer.leftOver }
      let leftOver := c.leftOver <|> if c.rest.isEmpty then none else some d
      set { outer with
              rest, leftOver, written := .group d c.written.reverse :: outer.written }
      return x
    else missingPiece (Piece.groupTitle d)
  | _ => missingPiece (Piece.groupTitle d)

/-- Reads and answers with what was written as well, which is not written yet. -/
def captured {α : Type} (reader : Reader α) : Reader (α × List Token) := do
  let before := (← get).written
  modify fun c => { c with written := [] }
  let x ← reader
  let tokens := (← get).written.reverse
  modify fun c => { c with written := before }
  return (x, tokens)

/-- Reads a piece that is not written. -/
def pass (p : Piece) : Reader Unit := do
  let _ ← captured (read p)

/-- The tokens that have been taken since a cursor, as they were. -/
def takenSince (start : Cursor) : Reader (List Token) := do
  let rest := (← get).rest
  return start.rest.take (start.rest.length - rest.length)

/-- Goes back to a cursor and takes the tokens since then as they are. -/
def takeSince (start : Cursor) : Reader Unit := do
  let taken ← takenSince start
  modify fun c => { c with written := taken.reverse ++ start.written }

/-- Reads, but keeps the tokens as they are. -/
def verbatim {α : Type} (reader : Reader α) : Reader α := do
  let start ← get
  let x ← reader
  takeSince start
  return x

/-- Reads if that is possible, and otherwise takes nothing. -/
def attempt {α : Type} (reader : Reader α) : Reader (Option α) := fun c =>
  match reader.run c with
  | .ok (x, c') => .ok (some x, c')
  | .error _ => .ok (none, c)

/-- What a reader would answer, without taking anything. -/
def ahead {α : Type} (reader : Reader α) : Reader (Option α) := fun c =>
  match reader.run c with
  | .ok (x, _) => .ok (some x, c)
  | .error _ => .ok (none, c)

def repeatUpTo (step : Reader Bool) : Nat → Reader Unit
  | 0 => pure ()
  | rounds + 1 => do
    if ← step then repeatUpTo step rounds

/-- Repeats a step until it answers `false`. Steps that go on take a token at least. -/
def loop (step : Reader Bool) : Reader Unit := do
  repeatUpTo step ((← get).rest.length + 1)

/-- Items with commas between them up to the end; a comma may follow the last. -/
def commaList {α : Type} (item : Reader α) : Reader Unit :=
  loop do
    if ← atEnd then return false
    _ ← item
    if ← atEnd then return false
    read (.mark ",")
    return true

end MqttRouting.Attribute.Grammar
