import MqttRouting.Text.Quoted

/-!
IPv6 addresses as eight numbers. In text one run of zeros may be left out, and the
last two numbers may be written as an IPv4 address.
-/

namespace MqttRouting.Url.Ipv6

def hexDigit? (c : Char) : Option Nat :=
  if c.isDigit then some (c.toNat - '0'.toNat)
  else if 'a' ≤ c ∧ c ≤ 'f' then some (c.toNat - 'a'.toNat + 10)
  else if 'A' ≤ c ∧ c ≤ 'F' then some (c.toNat - 'A'.toNat + 10)
  else none

/-- The parts between separators; there is one at least. -/
def splitAt (separator : Char) (text : List Char) : List (List Char) :=
  text.foldr
    (fun c done =>
      match done with
      | [] => [[c]]
      | part :: rest => if c = separator then [] :: part :: rest else (c :: part) :: rest)
    [[]]

def hexPiece? (text : List Char) : Option Nat :=
  if text.isEmpty || 4 < text.length then none
  else (text.mapM hexDigit?).map (·.foldl (fun n digit => n * 16 + digit) 0)

/-- A number of an IPv4 address, without leading zeros. -/
def decimalPiece? (text : List Char) : Option Nat :=
  if text.isEmpty || 3 < text.length || !text.all Char.isDigit then none
  else if 1 < text.length && text.head? == some '0' then none
  else
    let n := text.foldl (fun n c => n * 10 + (c.toNat - '0'.toNat)) 0
    if n ≤ 255 then some n else none

/-- An IPv4 address as two numbers. -/
def dotted? (text : List Char) : Option (List Nat) :=
  match (splitAt '.' text).mapM decimalPiece? with
  | some [a, b, c, d] => some [a * 256 + b, c * 256 + d]
  | _ => none

/-- The numbers of groups between colons; the last group may be an IPv4 address. -/
def groups? (allowDotted : Bool) : List (List Char) → Option (List Nat)
  | [] => some []
  | [last] =>
    if allowDotted && last.contains '.' then dotted? last else (hexPiece? last).map ([·])
  | group :: rest => do
    let n ← hexPiece? group
    let more ← groups? allowDotted rest
    some (n :: more)

def piecesOf? (allowDotted : Bool) (text : List Char) : Option (List Nat) :=
  if text.isEmpty then some [] else groups? allowDotted (splitAt ':' text)

/-- Splits at the first double colon. -/
def splitAtGap : List Char → Option (List Char × List Char)
  | ':' :: ':' :: rest => some ([], rest)
  | c :: rest => (splitAtGap rest).map fun (before, after) => (c :: before, after)
  | [] => none

/-- The gap stands for one number at least. -/
def parse? (text : List Char) : Option (List Nat) :=
  match splitAtGap text with
  | none => (piecesOf? true text).filter (·.length = 8)
  | some (before, after) => do
    let left ← piecesOf? false before
    let right ← piecesOf? true after
    if left.length + right.length ≤ 7 then
      some (left ++ List.replicate (8 - left.length - right.length) 0 ++ right)
    else none

/-- The start and length of the first of the longest runs of zeros. -/
def longestRun (start : Nat) (best : Nat × Nat) : List Nat → Nat × Nat
  | [] => best
  | n :: rest =>
    let length := ((n :: rest).takeWhile (· = 0)).length
    longestRun (start + 1) (if best.2 < length then (start, length) else best) rest

def joined (pieces : List Nat) : String := ":".intercalate (pieces.map Text.hexText)

/-- The shortest form: the longest run of two or more zeros is left out. -/
def toText (pieces : List Nat) : String :=
  let (start, length) := longestRun 0 (0, 0) pieces
  if 2 ≤ length then
    joined (pieces.take start) ++ "::" ++ joined (pieces.drop (start + length))
  else joined pieces

end MqttRouting.Url.Ipv6
