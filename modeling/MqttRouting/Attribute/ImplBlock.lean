import MqttRouting.Attribute.Attr
import MqttRouting.Attribute.Parameter

/-!
Blocks of methods, as far as attributes are concerned: what the methods are called, what
stands on them and on their arguments. Everything else is kept as tokens.
-/

namespace MqttRouting.Attribute

inductive InputBody where
  /-- The object that a method is called on. -/
  | receiver (tokens : List Token)
  | typed (pattern type : List Token)

def InputBody.isReceiver : InputBody → Bool
  | .receiver _ => true
  | .typed _ _ => false

structure Input where
  attrs : List Attr
  body : InputBody

structure Signature where
  /-- What stands before `fn`. -/
  qualifiers : List Token
  name : String
  parameters : List Parameter
  inputs : List Input
  /-- Whether a comma follows the last input. -/
  trailingComma : Bool
  /-- Points that stand for further inputs. -/
  variadic : List Token
  /-- The result type and the conditions. -/
  tail : List Token

structure Method where
  attrs : List Attr
  /-- What stands before the signature. -/
  marks : List Token
  signature : Signature
  innerAttrs : List Attr
  statements : List Token

inductive Item where
  | method (m : Method)
  | other (tokens : List Token)

structure ImplBlock where
  attrs : List Attr
  qualifiers : List Token
  parameters : List Parameter
  /-- The trait that the block is for. -/
  ofTrait : Option (List Token)
  selfType : List Token
  /-- The conditions with the `where` in front of them. -/
  conditions : List Token
  innerAttrs : List Attr
  items : List Item

/-! Tokens. -/

def InputBody.tokens : InputBody → List Token
  | .receiver tokens => tokens
  | .typed pattern type => pattern ++ .punct ':' false :: type

def Input.tokens (i : Input) : List Token := i.attrs.flatMap Attr.tokens ++ i.body.tokens

def inputTokens (trailingComma : Bool) : List Input → List Token
  | [] => []
  | [last] => last.tokens ++ if trailingComma then [.punct ',' false] else []
  | input :: rest => input.tokens ++ .punct ',' false :: inputTokens trailingComma rest

def Signature.tokens (s : Signature) : List Token :=
  s.qualifiers ++ [.ident "fn", .ident s.name] ++ parameterTokens s.parameters ++
    [.group .paren (inputTokens s.trailingComma s.inputs ++ s.variadic)] ++ s.tail

def Method.tokens (m : Method) : List Token :=
  m.attrs.flatMap Attr.tokens ++ m.marks ++ m.signature.tokens ++
    [.group .brace (m.innerAttrs.flatMap Attr.tokens ++ m.statements)]

def Item.tokens : Item → List Token
  | .method m => m.tokens
  | .other tokens => tokens

namespace ImplBlock

def traitTokens (b : ImplBlock) : List Token :=
  match b.ofTrait with
  | some tokens => tokens ++ [.ident "for"]
  | none => []

def tokens (b : ImplBlock) : List Token :=
  b.attrs.flatMap Attr.tokens ++ b.qualifiers ++ .ident "impl" :: parameterTokens b.parameters ++
    b.traitTokens ++ b.selfType ++ b.conditions ++
    [.group .brace (b.innerAttrs.flatMap Attr.tokens ++ b.items.flatMap Item.tokens)]

end ImplBlock
end MqttRouting.Attribute
