import MqttRouting.Dictionary

/-!
Placeholders in templates, each a name in double braces. A placeholder opens at the
first pair of opening braces and closes at the first pair of closing braces behind
it; what has been replaced is not looked at again. Two passes work on templates: one
puts in the values bound to names, the other a plain level for every name.
-/

namespace MqttRouting.Topic

abbrev Bindings := Dictionary String

/-- Splits at the first place where two given characters stand together. -/
def splitAtPair (c : Char) : List Char → Option (List Char × List Char)
  | a :: b :: rest =>
    if a = c ∧ b = c then some ([], rest)
    else (splitAtPair c (b :: rest)).map fun (before, after) => (a :: before, after)
  | _ => none

theorem splitAtPair_length {c : Char} {text before after : List Char}
    (h : splitAtPair c text = some (before, after)) : after.length + 2 ≤ text.length := by
  induction text generalizing before with
  | nil => simp [splitAtPair] at h
  | cons a rest ih =>
    cases rest with
    | nil => simp [splitAtPair] at h
    | cons b rest =>
      simp only [splitAtPair] at h
      split at h
      · cases h; simp
      · obtain ⟨⟨before', after'⟩, h', e⟩ := Option.map_eq_some_iff.1 h
        cases e
        exact Nat.le_succ_of_le (ih h')

/-- A stretch of a template. -/
inductive Part where
  | plain (text : List Char)
  | placeholder (name : List Char)
  deriving DecidableEq, Repr

/-- The parts of a template; what follows the last placeholder is plain, even with an
opening pair that is never closed. -/
def parts (template : List Char) : List Part :=
  match _open : splitAtPair '{' template with
  | none => [.plain template]
  | some (before, behind) =>
    match _close : splitAtPair '}' behind with
    | none => [.plain template]
    | some (name, rest) => .plain before :: .placeholder name :: parts rest
termination_by template.length
decreasing_by
  have opened := splitAtPair_length _open
  have closed := splitAtPair_length _close
  omega

def Part.chars : Part → List Char
  | .plain text => text
  | .placeholder name => '{' :: '{' :: name ++ ['}', '}']

/-- Whether two opening braces stand together anywhere. -/
def hasOpening (template : List Char) : Bool := (splitAtPair '{' template).isSome

/-- Nothing can be replaced: no name has a value, or nothing opens. -/
def isSettled (template : String) (bindings : Bindings) : Bool :=
  bindings.isEmpty || !hasOpening template.toList

/-- The scan behind `substitute`. `done` is the text so far in reverse. -/
def substituteFrom (bindings : Bindings) (done rest : List Char) : List Char :=
  match _open : splitAtPair '{' rest with
  | none => done.reverse ++ rest
  | some (before, behind) =>
    match _close : splitAtPair '}' behind with
    | none => done.reverse ++ rest
    | some (name, rest) =>
      let value :=
        match bindings.find? (String.ofList name) with
        | some value => value.toList
        | none => '{' :: '{' :: name ++ ['}', '}']
      substituteFrom bindings (value.reverse ++ (before.reverse ++ done)) rest
termination_by rest.length
decreasing_by
  have opened := splitAtPair_length _open
  have closed := splitAtPair_length _close
  omega

/-- A template with its values put in: the template itself where nothing can be replaced, else
a text made for it. -/
inductive Resolved where
  | kept (template : String)
  | made (text : String)
  deriving DecidableEq

def Resolved.text : Resolved → String
  | .kept template => template
  | .made text => text

/-- Replaces each placeholder that has a value; the others stay as they are. -/
def resolve (template : String) (bindings : Bindings) : Resolved :=
  if isSettled template bindings then .kept template
  else .made (String.ofList (substituteFrom bindings [] template.toList))

def substitute (template : String) (bindings : Bindings) : String :=
  (resolve template bindings).text

def substituteAll (templates : List String) (bindings : Bindings) : List String :=
  templates.map (substitute · bindings)

/-- The level that stands for any value when a template is checked without values. -/
def sampleLevel : List Char := "placeholder".toList

/-- The scan behind `fill`: an opening pair is paired with the first closing pair that
stands anywhere behind the start of the opening one. -/
def fillFrom (done rest : List Char) : List Char :=
  match _open : splitAtPair '{' rest with
  | none => done.reverse ++ rest
  | some (before, behind) =>
    match _close : splitAtPair '}' ('{' :: '{' :: behind) with
    | none => done.reverse ++ rest
    | some (_, rest) => fillFrom (sampleLevel.reverse ++ (before.reverse ++ done)) rest
termination_by rest.length
decreasing_by
  have opened := splitAtPair_length _open
  have closed := splitAtPair_length _close
  simp only [List.length_cons] at closed
  omega

/-- Puts a plain level in the place of every placeholder. -/
def fill (template : String) : String := String.ofList (fillFrom [] template.toList)

end MqttRouting.Topic
