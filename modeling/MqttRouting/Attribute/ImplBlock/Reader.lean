import MqttRouting.Attribute.Grammar.Depth

/-!
Reading blocks of methods from text.
-/

namespace MqttRouting.Attribute.ImplBlock

/-- Reads a block, behind which nothing may be left over. -/
def ofTokens (tokens : List Token) : Except SyntaxError ImplBlock := do
  let grammar := Grammar.ofDepth (Grammar.depthOf tokens)
  let ((b, _), left) ← (Grammar.blockOfMethods grammar false).run { rest := tokens }
  match left.leftOver, left.rest with
  | some d, _ => .error (.leftOver (some d))
  | none, _ :: _ => .error (.leftOver none)
  | none, [] => .ok b

def ofText (text : String) : Except SyntaxError ImplBlock :=
  match Token.ofText? text with
  | some tokens => ofTokens tokens
  | none => .error .notTokens

end MqttRouting.Attribute.ImplBlock
