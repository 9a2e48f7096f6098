import MqttRouting.Text.Unprintable

/-!
White space in the sense of the Unicode property of that name.
-/

namespace MqttRouting.Text

def blankRanges : List (Nat × Nat) :=
  [(0x9, 0xd), (0x20, 0x20), (0x85, 0x85), (0xa0, 0xa0), (0x1680, 0x1680), (0x2000, 0x200a),
   (0x2028, 0x2029), (0x202f, 0x202f), (0x205f, 0x205f), (0x3000, 0x3000)]

def isBlankChar (c : Char) : Bool := inRanges blankRanges c.toNat

/-- No character is visible; the empty text is blank too. -/
def isBlank (text : String) : Bool := text.toList.all isBlankChar

end MqttRouting.Text
