import MqttRouting.Attribute.Token
import MqttRouting.Text.Blank
import MqttRouting.Text.Identifier
import MqttRouting.Text.Quoted

/-!
Reading source text as tokens. Text is first cut into lexemes, from left to right, and
the lexemes are then put together to trees. White space and comments stand between
lexemes; documentation comments are attributes in another spelling.
-/

namespace MqttRouting.Attribute

inductive Lexeme where
  | ident (name : String)
  | punct (c : Char) (joint : Bool)
  | literal (text : String)
  | opening (d : Delimiter)
  | closing (d : Delimiter)
  deriving DecidableEq

namespace Lexer

def startsWith (start : String) (text : List Char) : Bool := start.toList.isPrefixOf text

/-! Blanks and comments. -/

def isSpace (c : Char) : Bool := Text.isBlankChar c || c == '\u200e' || c == '\u200f'

/-- How many characters a block comment has, with those inside it. -/
def blockLength? (depth : Nat) : List Char → Option Nat
  | '/' :: '*' :: rest => (blockLength? (depth + 1) rest).map (· + 2)
  | '*' :: '/' :: rest => if depth ≤ 1 then some 2 else (blockLength? (depth - 1) rest).map (· + 2)
  | _ :: rest => (blockLength? depth rest).map (· + 1)
  | [] => none

def lineLength (text : List Char) : Nat := (text.takeWhile (· != '\n')).length

def isLineDoc (text : List Char) : Bool :=
  (startsWith "///" text && !startsWith "////" text) || startsWith "//!" text

def isBlockDoc (text : List Char) : Bool :=
  (startsWith "/**" text && !startsWith "/***" text && !startsWith "/**/" text) ||
    startsWith "/*!" text

/-- How many characters of white space or plain comment come first, if any. -/
def blankLength? (text : List Char) : Option Nat :=
  match text with
  | [] => none
  | c :: _ =>
    if isSpace c then some 1
    else if startsWith "//" text && !isLineDoc text then some (lineLength text)
    else if startsWith "/*" text && !isBlockDoc text then blockLength? 0 text
    else none

/-- Carriage returns stand before line feeds only. -/
def hasBareReturn : List Char → Bool
  | '\r' :: '\n' :: rest => hasBareReturn rest
  | '\r' :: _ => true
  | _ :: rest => hasBareReturn rest
  | [] => false

/-- The length of a documentation comment, its text, and whether it is about what it stands
in and not about what follows it. -/
def docComment? (text : List Char) : Option (Nat × List Char × Bool) :=
  if isLineDoc text then
    let line := text.take (lineLength text)
    let ended := lineLength text < text.length
    let line := if ended && line.getLast? = some '\r' then line.dropLast else line
    some (line.length, line.drop 3, startsWith "//!" text)
  else if isBlockDoc text then
    (blockLength? 0 text).map fun n =>
      (n, ((text.take n).drop 3).take (n - 5), startsWith "/*!" text)
  else none

/-- The text of a documentation comment between the quotes of a literal. A zero in front
of an octal digit is written in hexadecimal, so that the two are not taken for one code. -/
def docText : List Char → String
  | [] => ""
  | '\x00' :: c :: rest =>
    (if '0' ≤ c ∧ c ≤ '7' then "\\x00" else "\\0") ++ docText (c :: rest)
  | c :: rest => Text.quoteChar c ++ docText rest

def docLexemes (text : List Char) (inner : Bool) : List Lexeme :=
  (.punct '#' false :: if inner then [.punct '!' false] else []) ++
    [.opening .bracket, .ident "doc", .punct '=' false,
      .literal ("\"" ++ docText text ++ "\""), .closing .bracket]

/-! Literals. Each function gives the length of the literal at the start of a text. -/

def hexValue? (c : Char) : Option Nat :=
  if c.isDigit then some (c.toNat - '0'.toNat)
  else if 'a' ≤ c ∧ c ≤ 'f' then some (c.toNat - 'a'.toNat + 10)
  else if 'A' ≤ c ∧ c ≤ 'F' then some (c.toNat - 'A'.toNat + 10)
  else none

/-- The value of digits with underscores between braces, up to six, and their length. -/
def codePoint? (value count : Nat) : List Char → Option (Nat × Nat)
  | [] => none
  | c :: rest =>
    if c = '}' then if 0 < count then some (value, 1) else none
    else if c = '_' then
      if 0 < count then (codePoint? value count rest).map fun (v, n) => (v, n + 1) else none
    else
      match hexValue? c with
      | none => none
      | some digit =>
        if count = 6 then none
        else (codePoint? (value * 16 + digit) (count + 1) rest).map fun (v, n) => (v, n + 1)

/-- What quoted text is made of. -/
inductive Alphabet where
  | characters
  | bytes
  /-- Characters of which none is null. -/
  | notNull
  deriving DecidableEq

def Alphabet.has (alphabet : Alphabet) (c : Char) : Bool :=
  match alphabet with
  | .characters => true
  | .bytes => c.toNat < 0x80
  | .notNull => c != '\x00'

/-- What an escape stands for, and its length behind the backslash. Nothing stands for a
line break. -/
def escape? (alphabet : Alphabet) : List Char → Option (Option Char × Nat)
  | 'n' :: _ => some (some '\n', 1)
  | 'r' :: _ => some (some '\r', 1)
  | 't' :: _ => some (some '\t', 1)
  | '\\' :: _ => some (some '\\', 1)
  | '0' :: _ => if alphabet = .notNull then none else some (some '\x00', 1)
  | '\'' :: _ => some (some '\'', 1)
  | '"' :: _ => some (some '"', 1)
  | '\n' :: _ => some (none, 1)
  | '\r' :: '\n' :: _ => some (none, 2)
  | 'x' :: a :: b :: _ =>
    match hexValue? a, hexValue? b with
    | some high, some low =>
      let value := high * 16 + low
      let fits := match alphabet with
        | .characters => decide (value < 0x80)
        | .bytes => true
        | .notNull => value != 0
      if fits then some (some (Char.ofNat value), 3) else none
    | _, _ => none
  | 'u' :: '{' :: rest =>
    match codePoint? 0 0 rest with
    | some (value, n) =>
      let fits := value.isValidChar && alphabet != .bytes && alphabet.has (Char.ofNat value)
      if fits then some (some (Char.ofNat value), n + 2) else none
    | none => none
  | _ => none

/-- The rest of a quoted literal with its final quote. `owed` counts the characters that
belong to an escape. -/
def quotedRest? (alphabet : Alphabet) (owed : Nat) : List Char → Option Nat
  | [] => none
  | c :: rest =>
    match owed with
    | owed + 1 => (quotedRest? alphabet owed rest).map (· + 1)
    | 0 =>
      if c = '"' then some 1
      else if c = '\\' then
        match escape? alphabet rest with
        | some (_, n) => (quotedRest? alphabet n rest).map (· + 1)
        | none => none
      else if c = '\r' ∧ rest.head? ≠ some '\n' then none
      else if alphabet.has c then (quotedRest? alphabet 0 rest).map (· + 1)
      else none

/-- The rest of a raw literal, up to a quote with so many hashes. -/
def rawRest? (alphabet : Alphabet) (hashes : Nat) : List Char → Option Nat
  | [] => none
  | c :: rest =>
    if c = '"' ∧ (List.replicate hashes '#').isPrefixOf rest then some (1 + hashes)
    else if c = '\r' ∧ rest.head? ≠ some '\n' then none
    else if alphabet.has c then (rawRest? alphabet hashes rest).map (· + 1)
    else none

/-- A raw literal from its hashes on. -/
def rawLength? (alphabet : Alphabet) (text : List Char) : Option Nat :=
  let hashes := (text.takeWhile (· = '#')).length
  match text.drop hashes with
  | '"' :: rest =>
    if hashes ≤ 255 then (rawRest? alphabet hashes rest).map (· + (hashes + 1)) else none
  | _ => none

/-- A single character between quotes. -/
def characterLength? (alphabet : Alphabet) : List Char → Option Nat
  | '\'' :: '\\' :: rest =>
    match escape? alphabet rest with
    | some (some _, n) => if (rest.drop n).head? = some '\'' then some (n + 3) else none
    | _ => none
  | '\'' :: c :: '\'' :: _ => if alphabet.has c then some 3 else none
  | _ => none

/-- Text literals of all kinds, with the letters in front of them. -/
def textLength? : List Char → Option Nat
  | '"' :: rest => (quotedRest? .characters 0 rest).map (· + 1)
  | 'r' :: rest => (rawLength? .characters rest).map (· + 1)
  | 'b' :: '"' :: rest => (quotedRest? .bytes 0 rest).map (· + 2)
  | 'b' :: 'r' :: rest => (rawLength? .bytes rest).map (· + 2)
  | 'b' :: '\'' :: rest => (characterLength? .bytes ('\'' :: rest)).map (· + 1)
  | 'c' :: '"' :: rest => (quotedRest? .notNull 0 rest).map (· + 2)
  | 'c' :: 'r' :: rest => (rawLength? .notNull rest).map (· + 2)
  | text => characterLength? .characters text

def isDigitOrGap (c : Char) : Bool := c.isDigit || c == '_'

/-- The digits of a whole number with the mark of its base. -/
def wholeLength? (text : List Char) : Option Nat :=
  let (base, mark) :=
    if startsWith "0x" text then (16, 2)
    else if startsWith "0o" text then (8, 2)
    else if startsWith "0b" text then (2, 2)
    else (10, 0)
  let digits := (text.drop mark).takeWhile fun c =>
    c == '_' || c.isDigit || ((hexValue? c).map fun n => decide (n < base)).getD false
  if (digits.filter (· != '_')).isEmpty then none
  else if base = 10 ∧ digits.head? = some '_' then none
  else if digits.any fun c => c.isDigit && base ≤ c.toNat - '0'.toNat then none
  else some (mark + digits.length)

/-- The digits behind the mark of an exponent, with a sign before them. -/
def exponentLength? (text : List Char) : Option Nat :=
  let gap := (text.takeWhile (· = '_')).length
  let sign := match text.drop gap with
    | '+' :: _ | '-' :: _ => gap + 1
    | _ => gap
  let digits := (text.drop sign).takeWhile isDigitOrGap
  if digits.any Char.isDigit then some (sign + digits.length) else none

/-- A number with a point or an exponent. -/
def pointLength? (text : List Char) : Option Nat :=
  let whole := (text.takeWhile isDigitOrGap).length
  if !((text.head?.map Char.isDigit).getD false) then none
  else
    let withPoint? : Option Nat :=
      match text.drop whole with
      | '.' :: rest =>
        if (rest.head?.map fun c => c == '.' || Text.isIdentifierStart c).getD false then none
        else some (whole + 1 + (rest.takeWhile isDigitOrGap).length)
      | _ => none
    match withPoint?, text.drop (withPoint?.getD whole) with
    | point?, e :: rest =>
      if e = 'e' ∨ e = 'E' then
        match exponentLength? rest with
        | some n => some (point?.getD whole + 1 + n)
        | none => point?
      else point?
    | point?, [] => point?

/-- A literal with the word behind it, at which it has to end. -/
def withSuffix (text : List Char) (length : Nat) : Nat :=
  match text.drop length with
  | c :: _ =>
    if Text.isIdentifierStart c then
      length + ((text.drop length).takeWhile Text.isIdentifierChar).length
    else length
  | [] => length

def endsAtWord (text : List Char) (length : Nat) : Bool :=
  !(((text.drop length).head?.map Text.isIdentifierChar).getD false)

def numberLength? (text : List Char) : Option Nat :=
  let finish (length : Nat) : Option Nat :=
    if endsAtWord text (withSuffix text length) then some (withSuffix text length) else none
  ((pointLength? text).bind finish).or ((wholeLength? text).bind finish)

def literalLength? (text : List Char) : Option Nat :=
  ((textLength? text).map (withSuffix text)).or (numberLength? text)

/-! Punctuation and identifiers. -/

def isPunctuation (c : Char) : Bool := "~!@#$%^&*-=+|;:,<.>/?'".toList.contains c

def startsComment (text : List Char) : Bool := startsWith "//" text || startsWith "/*" text

/-- Identifiers that cannot be raw. -/
def neverRaw : List String := ["_", "super", "self", "Self", "crate"]

/-- Beginnings of literals, which are no identifiers. -/
def literalMarks : List String :=
  ["r\"", "r#\"", "r##", "b\"", "b'", "br\"", "br#", "c\"", "cr\"", "cr#"]

def plainIdentifier? (text : List Char) : Option String :=
  match text with
  | c :: _ =>
    if Text.isIdentifierStart c then some (String.ofList (text.takeWhile Text.isIdentifierChar))
    else none
  | [] => none

/-- An identifier, which may be a raw one. -/
def word? (text : List Char) : Option String :=
  if startsWith "r#" text then
    match plainIdentifier? (text.drop 2) with
    | some name => if neverRaw.contains name then none else some ("r#" ++ name)
    | none => none
  else plainIdentifier? text

def identifier? (text : List Char) : Option String :=
  if literalMarks.any (startsWith · text) then none else word? text

/-- A single quote is punctuation in front of a lifetime name only. -/
def isLifetimeMark (rest : List Char) : Bool :=
  match word? rest with
  | some name =>
    match rest.drop name.length with
    | '\'' :: _ => false
    | '#' :: _ => startsWith "r#" rest
    | _ => true
  | none => false

def punctuation? (text : List Char) : Option Lexeme :=
  match text with
  | [] => none
  | c :: rest =>
    if !isPunctuation c || startsComment text then none
    else if c = '\'' then if isLifetimeMark rest then some (.punct c true) else none
    else
      let joint := (rest.head?.map isPunctuation).getD false && !startsComment rest
      some (.punct c joint)

/-! Lexemes. -/

def delimiter? : Char → Option Lexeme
  | '(' => some (.opening .paren)
  | '[' => some (.opening .bracket)
  | '{' => some (.opening .brace)
  | ')' => some (.closing .paren)
  | ']' => some (.closing .bracket)
  | '}' => some (.closing .brace)
  | _ => none

/-- The lexemes at the start of a text that begins with neither blanks nor plain comments,
and how many characters they take. -/
def next? (text : List Char) : Option (List Lexeme × Nat) :=
  match docComment? text with
  | some (length, content, inner) =>
    if hasBareReturn content then none else some (docLexemes content inner, length)
  | none =>
    match text.head?.bind delimiter? with
    | some lexeme => some ([lexeme], 1)
    | none =>
      match literalLength? text with
      | some n => some ([.literal (String.ofList (text.take n))], n)
      | none =>
        match punctuation? text with
        | some lexeme => some ([lexeme], 1)
        | none => (identifier? text).map fun name => ([.ident name], name.length)

/-- All lexemes of a text. `done` holds those so far in reverse. -/
def lexFrom (done : List Lexeme) (text : List Char) : Option (List Lexeme) :=
  if text.isEmpty then some done.reverse
  else
    let (found, length) :=
      match blankLength? text with
      | some n => (some [], n)
      | none =>
        match next? text with
        | some (lexemes, n) => (some lexemes, n)
        | none => (none, 0)
    match found with
    | none => none
    | some lexemes =>
      if _shorter : (text.drop length).length < text.length then
        lexFrom (lexemes.reverse ++ done) (text.drop length)
      else none
termination_by text.length
decreasing_by exact _shorter

end Lexer

namespace Token

/-- Puts lexemes together. `stack` holds the groups that are open, innermost first, each
with the tokens in front of it in reverse. -/
def assemble (stack : List (Delimiter × List Token)) (done : List Token) :
    List Lexeme → Option (List Token)
  | [] => if stack.isEmpty then some done.reverse else none
  | .ident name :: rest => assemble stack (.ident name :: done) rest
  | .punct c joint :: rest => assemble stack (.punct c joint :: done) rest
  | .literal text :: rest => assemble stack (.literal text :: done) rest
  | .opening d :: rest => assemble ((d, done) :: stack) [] rest
  | .closing d :: rest =>
    match stack with
    | (d', before) :: stack =>
      if d = d' then assemble stack (.group d done.reverse :: before) rest else none
    | [] => none

/-- The tokens of a text, if it is made of tokens and its groups are closed. A byte order
mark may stand in front. -/
def ofText? (text : String) : Option (List Token) :=
  let chars := match text.toList with
    | '\ufeff' :: rest => rest
    | chars => chars
  (Lexer.lexFrom [] chars).bind (assemble [] [])

end Token
end MqttRouting.Attribute
