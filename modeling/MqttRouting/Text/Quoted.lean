import MqttRouting.Text.Hidden

/-!
Text in double quotes, for messages and for dumps of values. Each character is
written on its own: a short escape where one exists, its code point where it
cannot be seen, itself otherwise. Bytes have a second form of the same kind.
-/

namespace MqttRouting.Text

def hexText (n : Nat) : String := String.ofList (Nat.toDigits 16 n)

def quoteChar (c : Char) : String :=
  match c with
  | '\x00' => "\\0"
  | '\t' => "\\t"
  | '\r' => "\\r"
  | '\n' => "\\n"
  | '\\' => "\\\\"
  | '"' => "\\\""
  | c => if isHidden c then "\\u\x7b" ++ hexText c.toNat ++ "\x7d" else String.singleton c

def quote (text : String) : String :=
  text.foldl (fun out c => out ++ quoteChar c) "\"" ++ "\""

def quoteByte (b : UInt8) : String :=
  match Char.ofNat b.toNat with
  | '\x00' => "\\0"
  | '\t' => "\\t"
  | '\r' => "\\r"
  | '\n' => "\\n"
  | '\\' => "\\\\"
  | '"' => "\\\""
  | c =>
    if 0x20 ≤ b.toNat ∧ b.toNat ≤ 0x7E then String.singleton c
    else "\\x" ++ (if b.toNat < 16 then "0" else "") ++ hexText b.toNat

def quoteBytes (bytes : List UInt8) : String :=
  bytes.foldl (fun out b => out ++ quoteByte b) "b\"" ++ "\""

/-- Items between brackets, with commas. -/
def bracketed (items : List String) : String :=
  "[" ++ ", ".intercalate items ++ "]"

/-- A value that may be absent. -/
def optional (item : Option String) : String :=
  match item with
  | none => "None"
  | some text => "Some(" ++ text ++ ")"

end MqttRouting.Text
