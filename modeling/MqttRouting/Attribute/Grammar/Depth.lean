import MqttRouting.Attribute.Grammar.Item

/-!
The grammar for things that stand inside of one another up to a certain depth. Between a
thing and the next one of its kind inside of it there is a token, and there are fewer kinds
than `kinds`, so tokens cannot be nested deeper than `depthOf` allows.
-/

namespace MqttRouting.Attribute.Grammar

/-- Nothing can be read any deeper. -/
def tooDeep {α : Type} : Reader α := do
  throw (.unexpected (← atEnd))

def ofDepth : Nat → Nested
  | 0 =>
    { type := fun _ => tooDeep
      bound := fun _ _ => tooDeep
      expr := fun _ => tooDeep
      operand := fun _ => tooDeep
      operators := fun _ _ _ => tooDeep
      early := tooDeep
      pattern := tooDeep
      statements := tooDeep
      parameter := tooDeep
      imported := fun _ => tooDeep
      item := tooDeep }
  | depth + 1 =>
    { type := fun plus c => typeOf (ofDepth depth) plus c
      bound := fun captures constant c => bound (ofDepth depth) captures constant c
      expr := fun structs c => exprOf (ofDepth depth) structs c
      operand := fun structs c => operandOf (ofDepth depth) structs c
      operators := fun structs base kind c => operatorsBehind (ofDepth depth) structs base kind c
      early := fun c => earlyExpr (ofDepth depth) c
      pattern := fun c => patternOf (ofDepth depth) c
      statements := fun c => statements (ofDepth depth) c
      parameter := fun c => binderParameter (ofDepth depth) c
      imported := fun rooted c => importedBy (ofDepth depth) rooted c
      item := fun c => item (ofDepth depth) c }

def kinds : Nat := 12

def depthOf (tokens : List Token) : Nat := kinds * ((Token.wordsOf tokens).length + 1)

end MqttRouting.Attribute.Grammar
