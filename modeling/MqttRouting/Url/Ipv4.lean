import MqttRouting.Url.Ipv6

/-!
IPv4 addresses as numbers. Each of their parts may be written in one of three bases, and
the last part fills all bytes that are left.
-/

namespace MqttRouting.Url.Ipv4

def digitsIn? (base : Nat) (text : List Char) : Option Nat := do
  let digits ← text.mapM Ipv6.hexDigit?
  if digits.all (· < base) then some (digits.foldl (fun n digit => n * base + digit) 0) else none

/-- A number by its base: sixteen behind `0x`, eight behind any other zero, else ten. -/
def number? : List Char → Option Nat
  | [] => none
  | '0' :: 'x' :: digits | '0' :: 'X' :: digits => digitsIn? 16 digits
  | '0' :: c :: digits => digitsIn? 8 (c :: digits)
  | digits => digitsIn? 10 digits

/-- The parts of a name; a point at the end divides nothing. -/
def parts (text : List Char) : List (List Char) :=
  let parts := Ipv6.splitAt '.' text
  if 1 < parts.length && parts.getLast? = some [] then parts.dropLast else parts

/-- Names that end in a number are addresses or nothing. -/
def endsInNumber (text : List Char) : Bool :=
  match (parts text).getLast? with
  | some last => (!last.isEmpty && last.all Char.isDigit) || (number? last).isSome
  | none => false

/-- How many values fit into some bytes. -/
def capacity : Nat → Nat
  | 0 => 1
  | bytes + 1 => 256 * capacity bytes

/-- The address with the given parts, which fill the bytes that are left. -/
def ofParts? : (bytes : Nat) → List Nat → Option Nat
  | 0, _ | _, [] => none
  | bytes + 1, [last] => if last < capacity (bytes + 1) then some last else none
  | bytes + 1, part :: rest =>
    if part < 256 then (ofParts? bytes rest).map (part * capacity bytes + ·) else none

def parse? (text : List Char) : Option Nat := do
  let numbers ← (parts text).mapM number?
  ofParts? 4 numbers

def byteTexts (address : Nat) : Nat → List String
  | 0 => []
  | bytes + 1 => toString (address / capacity bytes % 256) :: byteTexts address bytes

def toText (address : Nat) : String := ".".intercalate (byteTexts address 4)

end MqttRouting.Url.Ipv4
