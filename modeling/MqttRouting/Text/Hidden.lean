import MqttRouting.Text.Mark

/-!
The characters that quoted text writes by their code point: those that cannot be seen,
fillers among them, and those that extend the one before them.
-/

namespace MqttRouting.Text

/-- Letters that only fill a place. -/
def fillerRanges : List (Nat × Nat) :=
  [(0x115f, 0x1160), (0x3164, 0x3164), (0xffa0, 0xffa0)]

def isFiller (c : Char) : Bool := inRanges fillerRanges c.toNat

def isHidden (c : Char) : Bool := isUnprintable c || isExtender c || isFiller c

end MqttRouting.Text
