/-!
Names with characters beyond ASCII, as labels that have none: the ASCII characters come
first, and behind the last hyphen numbers say which other characters stand where. A number
has digits of 36 values, the least first, and ends at the first digit below a threshold.
-/

namespace MqttRouting.Url.Punycode

def digit? (c : Char) : Option Nat :=
  if 'a' ≤ c ∧ c ≤ 'z' then some (c.toNat - 'a'.toNat)
  else if c.isDigit then some (c.toNat - '0'.toNat + 26)
  else none

/-- Below the threshold, a digit is the last of its number. -/
def threshold (place bias : Nat) : Nat := min 26 (max 1 (place - bias))

/-- A number with the digits from a place on, and what follows it. -/
def number? (bias place weight value : Nat) : List Char → Option (Nat × List Char)
  | [] => none
  | c :: rest => do
    let d ← digit? c
    let value := value + d * weight
    if d < threshold place bias then some (value, rest)
    else number? bias (place + 36) (weight * (36 - threshold place bias)) value rest

/-- How often a number can be divided before it is small, times 36, and what is left. -/
def shrink (delta : Nat) : Nat × Nat :=
  if _large : 455 < delta then
    let (places, left) := shrink (delta / 35)
    (places + 36, left)
  else (0, delta)
termination_by delta
decreasing_by omega

/-- Thresholds follow the size of the last number. -/
def adapted (delta count : Nat) (first : Bool) : Nat :=
  let delta := if first then delta / 700 else delta / 2
  let (places, left) := shrink (delta + delta / count)
  places + 36 * left / (left + 38)

structure Progress where
  done : List Char
  code : Nat := 128
  position : Nat := 0
  bias : Nat := 72

/-- Puts in the character that a number stands for. -/
def Progress.put? (p : Progress) (number : Nat) : Option Progress :=
  let count := p.done.length + 1
  let code := p.code + number / count
  let position := number % count
  if Nat.isValidChar code then
    some
      { done := p.done.take position ++ Char.ofNat code :: p.done.drop position
        code
        position := position + 1
        bias := adapted (number - p.position) count (p.position = 0) }
  else none

def decodeFrom (p : Progress) : Nat → List Char → Option (List Char)
  | _, [] => some p.done
  | 0, _ :: _ => none
  | rounds + 1, text => do
    let (number, rest) ← number? p.bias 36 1 p.position text
    let p ← p.put? number
    decodeFrom p rounds rest

/-- What stands before the last hyphen, and what stands behind it. A hyphen in front divides
nothing. -/
def splitBasic (text : List Char) : List Char × List Char :=
  match (text.reverse.dropWhile (· != '-')).drop 1 with
  | [] => ([], text)
  | basic => (basic.reverse, (text.reverse.takeWhile (· != '-')).reverse)

def decode? (text : List Char) : Option (List Char) :=
  let (basic, rest) := splitBasic text
  if basic.all (·.toNat < 0x80) then decodeFrom { done := basic } rest.length rest else none

end MqttRouting.Url.Punycode
