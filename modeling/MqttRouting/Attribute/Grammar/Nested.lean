import MqttRouting.Attribute.Grammar.Cursor

/-!
What readers find out about the things they read, and the readers of things that can
stand inside of one another. The grammar is written for readers of that kind that are
given, and is closed in the end by readers of limited depth.
-/

namespace MqttRouting.Attribute.Grammar

inductive TypeKind where
  /-- A path; `single` when it is one name with nothing in parentheses. -/
  | path (single : Bool)
  /-- Bounds in the place of a type; `single` when there is one, and no plus sign. -/
  | bounds (single : Bool)
  | paren
  | reference
  | implTrait
  | other
  deriving DecidableEq

/-- How tight operators bind, from the loosest on. -/
inductive Precedence where
  | lowest
  | assign
  | range
  | or
  | and
  | compare
  | bitOr
  | bitXor
  | bitAnd
  | shift
  | sum
  | product
  | cast
  deriving DecidableEq

def Precedence.rank : Precedence → Nat
  | lowest => 0
  | assign => 1
  | range => 2
  | or => 3
  | and => 4
  | compare => 5
  | bitOr => 6
  | bitXor => 7
  | bitAnd => 8
  | shift => 9
  | sum => 10
  | product => 11
  | cast => 12

inductive ExprKind where
  /-- A block, or what ends in one and can stand as a statement. -/
  | block
  /-- Something invoked with an exclamation mark. -/
  | invocation (d : Delimiter)
  | range
  | comparison
  | other
  deriving DecidableEq

inductive BoundKind where
  | lifetime
  | capture
  /-- A trait, or a bound that is kept as it is. -/
  | traitName
  deriving DecidableEq

inductive PatternKind where
  /-- Two points that stand for all that is left. -/
  | rest
  /-- A range without one of its ends. -/
  | openRange
  | other
  deriving DecidableEq

/-- Readers of what can stand inside of itself. -/
structure Nested where
  /-- A type; `plus` when plus signs between bounds belong to it. -/
  type : (plus : Bool) → Reader TypeKind
  /-- A bound; `captures` and `constant` when those kinds may stand here. -/
  bound : (captures constant : Bool) → Reader BoundKind
  /-- An expression; `structs` when braces behind a path belong to it. -/
  expr : (structs : Bool) → Reader ExprKind
  /-- An expression without operators between operands. -/
  operand : (structs : Bool) → Reader ExprKind
  /-- The operators behind an expression that bind as tight as the given one at least. -/
  operators : (structs : Bool) → Precedence → ExprKind → Reader ExprKind
  /-- An expression that ends early because it can stand as a statement. -/
  early : Reader ExprKind
  pattern : Reader PatternKind
  statements : Reader Unit
  parameter : Reader Unit
  /-- What is imported; answers whether it has the usual form. -/
  imported : (rooted : Bool) → Reader Bool
  item : Reader Unit

end MqttRouting.Attribute.Grammar
