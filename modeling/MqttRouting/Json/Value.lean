import MqttRouting.Number.Binary64
import MqttRouting.Dictionary

/-!
Data in JSON form. Whole numbers within 64 bits, signed or unsigned, stay whole;
every other number is a binary64. Minus zero is such a number, since no whole
number is it.
-/

namespace MqttRouting.Json

inductive Number where
  | whole (n : Int)
  | float (x : Binary64)
  deriving DecidableEq

/-- Whether a whole number is one of those that JSON data keeps exactly. -/
def Number.InRange (n : Int) : Prop := -0x8000000000000000 ≤ n ∧ n < 0x10000000000000000

instance (n : Int) : Decidable (Number.InRange n) := by unfold Number.InRange; infer_instance

inductive Value where
  | null
  | bool (b : Bool)
  | number (n : Number)
  | text (s : String)
  | list (items : List Value)
  | object (entries : List (String × Value))

namespace Value

def field? (key : String) : Value → Option Value
  | .object entries => Dictionary.find? key entries
  | _ => none

end Value
end MqttRouting.Json
