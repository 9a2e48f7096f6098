import MqttRouting.Number.Shortest
import MqttRouting.Text.Quoted

/-!
What can be wrong with JSON text, or with JSON data of the wrong shape, and how it
is told. A fault seen in text has a position; one seen in data has none.
-/

namespace MqttRouting.Json

/-- Something that stands where another thing was expected. -/
inductive Found where
  | null
  | bool (b : Bool)
  | whole (n : Int)
  | float (x : Binary64)
  | text (s : String)
  | list
  | object

inductive Cause where
  | eofInValue | eofInList | eofInObject | eofInString
  | expectedValue | expectedIdent | expectedColon
  | expectedListCommaOrEnd | expectedObjectCommaOrEnd
  | trailingComma | trailingCharacters | keyMustBeString
  | invalidNumber | numberOutOfRange
  | invalidEscape | endOfHexEscape | loneSurrogate | controlCharacter | invalidCodePoint
  | recursionLimit
  | wrongType (found : Found) (expected : String)
  | outOfRange (n : Int) (expected : String)
  | missingField (name : String)
  | duplicateField (name : String)
  | wrongLength (length : Nat) (expected : String)
  /-- A rule of the caller's own, in the caller's words. -/
  | refused (reason : String)

/-- Lines count from one, columns are the bytes since the last line feed. -/
structure Position where
  line : Nat
  column : Nat
  deriving DecidableEq, Repr

structure Fault where
  cause : Cause
  position : Option Position := none

def Found.describe : Found → String
  | .null => "null"
  | .bool b => "boolean `" ++ toString b ++ "`"
  | .whole n => "integer `" ++ toString n ++ "`"
  | .float x => "floating point `" ++ x.toText ++ "`"
  | .text s => "string " ++ Text.quote s
  | .list => "sequence"
  | .object => "map"

def Cause.describe : Cause → String
  | .eofInValue => "EOF while parsing a value"
  | .eofInList => "EOF while parsing a list"
  | .eofInObject => "EOF while parsing an object"
  | .eofInString => "EOF while parsing a string"
  | .expectedValue => "expected value"
  | .expectedIdent => "expected ident"
  | .expectedColon => "expected `:`"
  | .expectedListCommaOrEnd => "expected `,` or `]`"
  | .expectedObjectCommaOrEnd => "expected `,` or `\x7d`"
  | .trailingComma => "trailing comma"
  | .trailingCharacters => "trailing characters"
  | .keyMustBeString => "key must be a string"
  | .invalidNumber => "invalid number"
  | .numberOutOfRange => "number out of range"
  | .invalidEscape => "invalid escape"
  | .endOfHexEscape => "unexpected end of hex escape"
  | .loneSurrogate => "lone leading surrogate in hex escape"
  | .controlCharacter => "control character (\\u0000-\\u001F) found while parsing a string"
  | .invalidCodePoint => "invalid unicode code point"
  | .recursionLimit => "recursion limit exceeded"
  | .wrongType found expected => "invalid type: " ++ found.describe ++ ", expected " ++ expected
  | .outOfRange n expected => "invalid value: integer `" ++ toString n ++ "`, expected " ++ expected
  | .missingField name => "missing field `" ++ name ++ "`"
  | .duplicateField name => "duplicate field `" ++ name ++ "`"
  | .wrongLength length expected =>
    "invalid length " ++ toString length ++ ", expected " ++ expected
  | .refused reason => reason

def Fault.message (fault : Fault) : String :=
  match fault.position with
  | none => fault.cause.describe
  | some p =>
    fault.cause.describe ++ " at line " ++ toString p.line ++ " column " ++ toString p.column

/-- The position after the bytes read so far. -/
def Position.after (read : List UInt8) : Position :=
  read.foldl (fun p b => if b = 10 then ⟨p.line + 1, 0⟩ else ⟨p.line, p.column + 1⟩) ⟨1, 0⟩

end MqttRouting.Json
