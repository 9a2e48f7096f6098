/-!
Token trees of source text: identifiers, single punctuation characters, literals as
they are written, and groups between matching delimiters.
-/

namespace MqttRouting.Attribute

inductive Delimiter where
  | paren
  | bracket
  | brace
  deriving DecidableEq, Repr

namespace Delimiter

def opening : Delimiter → String
  | .paren => "("
  | .bracket => "["
  | .brace => "\x7b"

def closing : Delimiter → String
  | .paren => ")"
  | .bracket => "]"
  | .brace => "\x7d"

end Delimiter

inductive Token where
  /-- An identifier or keyword. A raw one keeps its mark. -/
  | ident (name : String)
  /-- `joint` when another punctuation character follows at once. -/
  | punct (c : Char) (joint : Bool)
  | literal (text : String)
  | group (delimiter : Delimiter) (inner : List Token)

namespace Token

mutual

/-- The words of a token, with the delimiters of a group as words of their own. -/
def words : Token → List String
  | .ident name => [name]
  | .punct c _ => [String.singleton c]
  | .literal text => [text]
  | .group delimiter inner => delimiter.opening :: wordsOf inner ++ [delimiter.closing]

def wordsOf : List Token → List String
  | [] => []
  | token :: rest => token.words ++ wordsOf rest

end

mutual

def same : Token → Token → Bool
  | .ident name, .ident name' => name == name'
  | .punct c joint, .punct c' joint' => c == c' && joint == joint'
  | .literal text, .literal text' => text == text'
  | .group d inner, .group d' inner' => d == d' && sameAll inner inner'
  | _, _ => false

def sameAll : List Token → List Token → Bool
  | [], [] => true
  | token :: rest, token' :: rest' => same token token' && sameAll rest rest'
  | _, _ => false

end

mutual

theorem eq_of_same {token token' : Token} (h : same token token' = true) : token = token' := by
  cases token with
  | ident name => cases token' <;> simp_all [same]
  | punct c joint => cases token' <;> simp_all [same]
  | literal text => cases token' <;> simp_all [same]
  | group d inner =>
      cases token' with
      | group d' inner' =>
          simp only [same, Bool.and_eq_true, beq_iff_eq] at h
          rw [h.1, eq_of_sameAll h.2]
      | ident | punct | literal => cases h

theorem eq_of_sameAll {tokens tokens' : List Token} (h : sameAll tokens tokens' = true) :
    tokens = tokens' := by
  cases tokens with
  | nil => cases tokens' with
    | nil => rfl
    | cons => cases h
  | cons token rest => cases tokens' with
    | nil => cases h
    | cons token' rest' =>
        simp only [sameAll, Bool.and_eq_true] at h
        rw [eq_of_same h.1, eq_of_sameAll h.2]

end

mutual

theorem same_refl (token : Token) : same token token = true := by
  cases token with
  | ident | punct | literal => simp [same]
  | group d inner => simp [same, sameAll_refl inner]

theorem sameAll_refl (tokens : List Token) : sameAll tokens tokens = true := by
  cases tokens with
  | nil => rfl
  | cons token rest => simp [sameAll, same_refl token, sameAll_refl rest]

end

instance : DecidableEq Token := fun token token' =>
  decidable_of_iff (same token token' = true) ⟨eq_of_same, fun h => h ▸ same_refl token⟩

/-- Tokens in one line, with a blank between any two words. -/
def render (tokens : List Token) : String := " ".intercalate (wordsOf tokens)

def isPunct (c : Char) : Token → Bool
  | .punct c' _ => c == c'
  | .ident _ | .literal _ | .group _ _ => false

def isIdent (name : String) : Token → Bool
  | .ident name' => name == name'
  | .punct _ _ | .literal _ | .group _ _ => false

end Token

/-- Words that name nothing unless they are raw. -/
def isKeyword (name : String) : Bool :=
  ["_", "abstract", "as", "async", "await", "become", "box", "break", "const", "continue", "crate",
    "do", "dyn", "else", "enum", "extern", "false", "final", "fn", "for", "if", "impl", "in", "let",
    "loop", "macro", "match", "mod", "move", "mut", "override", "priv", "pub", "ref", "return",
    "Self", "self", "static", "struct", "super", "trait", "true", "try", "type", "typeof", "unsafe",
    "unsized", "use", "virtual", "where", "while", "yield"].contains name

/-! Separated lists. -/

/-- The stretches between commas, with whether a comma follows. A last stretch that is
empty is left out. -/
def commaSeparated : List Token → List (List Token × Bool)
  | [] => []
  | token :: rest =>
    if token.isPunct ',' then ([], true) :: commaSeparated rest
    else
      match commaSeparated rest with
      | [] => [([token], false)]
      | (stretch, comma) :: more => (token :: stretch, comma) :: more

end MqttRouting.Attribute
