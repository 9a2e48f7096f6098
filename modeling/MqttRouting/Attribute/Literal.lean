import MqttRouting.Attribute.Lexer

/-!
The values of literals.
-/

namespace MqttRouting.Attribute

/-- A text literal: how it is written and what it says. -/
structure TextLiteral where
  source : String
  value : String
  deriving DecidableEq

namespace Literal

def isGap (c : Char) : Bool := c == ' ' || c == '\t' || c == '\n' || c == '\r'

/-- What is written up to the closing quote. `owed` counts the characters that belong to an
escape; `skipping` is set behind an escaped line break, which takes the blanks behind it
along. -/
def unescape (owed : Nat) (skipping : Bool) : List Char → List Char
  | [] => []
  | c :: rest =>
    match owed with
    | owed + 1 => unescape owed skipping rest
    | 0 =>
      if skipping && isGap c then unescape 0 true rest
      else if c = '"' then []
      else if c = '\\' then
        match Lexer.escape? .characters rest with
        | some (some c, n) => c :: unescape n false rest
        | some (none, n) => unescape n true rest
        | none => []
      else if c = '\r' then unescape 0 false rest
      else c :: unescape 0 false rest

/-- What stands between the quotes of a raw literal, from its hashes on. -/
def rawValue (text : List Char) : List Char :=
  let hashes := (text.takeWhile (· = '#')).length
  let content := text.drop (hashes + 1)
  content.take ((Lexer.rawRest? .characters hashes content).getD 0 - (hashes + 1))

/-- The value of a literal that is a text. -/
def text? (source : String) : Option TextLiteral :=
  match source.toList with
  | '"' :: rest => some ⟨source, String.ofList (unescape 0 false rest)⟩
  | 'r' :: rest => some ⟨source, String.ofList (rawValue rest)⟩
  | _ => none

/-- The digits of a number up to what is none, as a value, and what follows them. A point
or an exponent makes a decimal number no whole one. -/
def wholeFrom (base value : Nat) (seen : Bool) : List Char → Option (Nat × List Char)
  | [] => if seen then some (value, []) else none
  | c :: rest =>
    if c = '_' then wholeFrom base value seen rest
    else
      match (Lexer.hexValue? c).filter (fun n => n < 10 || 10 < base) with
      | some digit => if digit < base then wholeFrom base (value * base + digit) true rest else none
      | none =>
        if base = 10 && c = '.' then none
        else if base = 10 && (c = 'e' || c = 'E') && (Lexer.exponentLength? rest).isSome then none
        else if seen then some (value, c :: rest)
        else none

/-- The value of a literal that is a whole number, and its suffix. -/
def wholeParts? (source : String) : Option (Nat × List Char) :=
  match source.toList with
  | '0' :: 'x' :: rest => wholeFrom 16 0 false rest
  | '0' :: 'o' :: rest => wholeFrom 8 0 false rest
  | '0' :: 'b' :: rest => wholeFrom 2 0 false rest
  | c :: rest => if c.isDigit then wholeFrom 10 0 false (c :: rest) else none
  | [] => none

/-- The value of a literal that is a whole number; a suffix says nothing about it. -/
def whole? (source : String) : Option Nat := (wholeParts? source).map Prod.fst

def isNumber (source : String) : Bool := (source.toList.head?.map Char.isDigit).getD false

/-- Whether a literal is a number with a point or an exponent. -/
def isDecimal (source : String) : Bool := isNumber source && (whole? source).isNone

end Literal
end MqttRouting.Attribute
