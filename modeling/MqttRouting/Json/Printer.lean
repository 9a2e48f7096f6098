import MqttRouting.Json.Value
import MqttRouting.Number.Shortest
import MqttRouting.Text.Quoted

/-!
Two ways to write data: compact text, which `Value.ofText` reads back, and a dump
that names the kind of every part.
-/

namespace MqttRouting.Json

def Number.toText : Number → String
  | .whole n => toString n
  | .float x => x.toText

def hexDigit (n : Nat) : String := String.ofList (Nat.toDigits 16 n)

def escapeChar (c : Char) : String :=
  match c with
  | '"' => "\\\""
  | '\\' => "\\\\"
  | '\x08' => "\\b"
  | '\x0c' => "\\f"
  | '\n' => "\\n"
  | '\r' => "\\r"
  | '\t' => "\\t"
  | c =>
    if c.toNat < 0x20 then "\\u00" ++ hexDigit (c.toNat / 16) ++ hexDigit (c.toNat % 16)
    else String.singleton c

/-- Only what JSON requires is escaped. -/
def stringText (s : String) : String :=
  s.foldl (fun out c => out ++ escapeChar c) "\"" ++ "\""

mutual

def Value.toText : Value → String
  | .null => "null"
  | .bool b => toString b
  | .number n => n.toText
  | .text s => stringText s
  | .list items => "[" ++ ",".intercalate (itemTexts items) ++ "]"
  | .object entries => "\x7b" ++ ",".intercalate (entryTexts entries) ++ "\x7d"

def itemTexts : List Value → List String
  | [] => []
  | v :: rest => v.toText :: itemTexts rest

def entryTexts : List (String × Value) → List String
  | [] => []
  | (key, v) :: rest => (stringText key ++ ":" ++ v.toText) :: entryTexts rest

end

mutual

def Value.dump : Value → String
  | .null => "Null"
  | .bool b => "Bool(" ++ toString b ++ ")"
  | .number n => "Number(" ++ n.toText ++ ")"
  | .text s => "String(" ++ Text.quote s ++ ")"
  | .list items => "Array " ++ Text.bracketed (itemDumps items)
  | .object entries => "Object \x7b" ++ ", ".intercalate (entryDumps entries) ++ "\x7d"

def itemDumps : List Value → List String
  | [] => []
  | v :: rest => v.dump :: itemDumps rest

def entryDumps : List (String × Value) → List String
  | [] => []
  | (key, v) :: rest => (Text.quote key ++ ": " ++ v.dump) :: entryDumps rest

end

end MqttRouting.Json
