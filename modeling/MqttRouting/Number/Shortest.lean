import MqttRouting.Number.Binary64

/-!
The shortest decimal that reads back as a given binary64, and the layouts in which
this library writes it. The digits come from exact comparison with the interval of
reals that round to the number: for one digit, two digits, and so on, the two grid
points next to the number are tried, and of two hits the nearer one is taken; a text
says for itself which of two equally near ones it writes.
-/

namespace MqttRouting

/-- The number `digits * 10 ^ exponent`; `digits` does not end in zero unless it is zero. -/
structure Decimal where
  digits : Nat
  exponent : Int
  deriving DecidableEq, Repr

namespace Decimal

/-- Drops zeros from the end, at most `limit` of them. -/
def trim (d : Decimal) : (limit : Nat) → Decimal
  | 0 => d
  | limit + 1 =>
    if d.digits ≠ 0 ∧ d.digits % 10 = 0 then trim ⟨d.digits / 10, d.exponent + 1⟩ limit else d

def digitText (d : Decimal) : String := toString d.digits

/-- The decimal exponent of the first digit. -/
def lead (d : Decimal) : Int := d.exponent + d.digitText.length - 1

end Decimal

namespace Binary64

/-- The reals that round to a magnitude, in units of a quarter of its last place:
`low` and `high` are at half the distance to the neighbours and belong to the
interval when the significand is even. The unit is `2 ^ shift / 2 ^ 1076`. -/
structure Interval where
  low : Nat
  middle : Nat
  high : Nat
  closed : Bool
  shift : Nat

/-- Below a power of two the neighbour is only half as far away, except at the
bottom of the range. -/
def interval (x : Binary64) : Interval :=
  let m := x.significand
  let near := m = binade ∧ 0 < x.shift
  { low := if near then 4 * m - 1 else 4 * m - 2
    middle := 4 * m
    high := 4 * m + 2
    closed := m % 2 == 0
    shift := x.shift }

/-- A grid point `c * 10 ^ exponent` and `b` units, over a common denominator. -/
def onScale (shift : Nat) (c : Nat) (exponent : Int) (b : Nat) : Nat × Nat :=
  if exponent < 0 then (c <<< 1076, (b <<< shift) * Nat.pow 10 exponent.natAbs)
  else ((c * Nat.pow 10 exponent.toNat) <<< 1076, b <<< shift)

def Interval.contains (i : Interval) (c : Nat) (exponent : Int) : Bool :=
  let (below, point) := (onScale i.shift c exponent i.low).swap
  let (point', above) := onScale i.shift c exponent i.high
  if i.closed then below ≤ point && point' ≤ above else below < point && point' < above

/-- The distance of a grid point from the number, on a scale that depends on the
exponent only. -/
def Interval.distance (i : Interval) (c : Nat) (exponent : Int) : Nat :=
  let (point, middle) := onScale i.shift c exponent i.middle
  if point ≤ middle then middle - point else point - middle

/-- The last grid point not above the number. -/
def Interval.floor (i : Interval) (exponent : Int) : Nat :=
  if exponent < 0 then ((i.middle <<< i.shift) * Nat.pow 10 exponent.natAbs) >>> 1076
  else (i.middle <<< i.shift) / (Nat.pow 10 exponent.toNat <<< 1076)

/-- The decimal exponent of the first digit of a magnitude that is not zero. The
estimate from the binary exponent is right or one too small. -/
def Interval.lead (i : Interval) : Int :=
  let binary : Int := (i.middle.log2 : Int) + i.shift - 1076
  let estimate := (binary * 30103).fdiv 100000
  if 0 < i.floor (estimate + 1) then estimate + 1 else estimate

/-- Where a number goes that lies half way between two grid points. -/
inductive Tie where
  | toEven
  | up
  deriving DecidableEq, Repr

/-- The grid point for a number half way between `c` and `c + 1`. -/
def Tie.choose (tie : Tie) (c : Nat) : Nat :=
  match tie with
  | .toEven => if c % 2 = 0 then c else c + 1
  | .up => c + 1

/-- The best hit on the grid of the given exponent. -/
def Interval.hit (i : Interval) (tie : Tie) (exponent : Int) : Option Nat :=
  let c := i.floor exponent
  match i.contains c exponent, i.contains (c + 1) exponent with
  | true, true =>
    some <| match compare (i.distance c exponent) (i.distance (c + 1) exponent) with
      | .lt => c
      | .eq => tie.choose c
      | .gt => c + 1
  | true, false => some c
  | false, true => some (c + 1)
  | false, false => none

/-- Seventeen digits always suffice, so `count` runs to `17`. -/
def Interval.search (i : Interval) (tie : Tie) (lead : Int) : (more count : Nat) → Decimal
  | 0, count => ⟨i.floor (lead - count), lead - count⟩
  | more + 1, count =>
    match i.hit tie (lead - count) with
    | some c => ⟨c, lead - count⟩
    | none => i.search tie lead more (count + 1)

def shortest (x : Binary64) (tie : Tie) : Decimal :=
  if x.isZero then ⟨0, 0⟩ else (x.interval.search tie x.interval.lead 17 0).trim 17

end Binary64

/-! Layouts. -/

namespace Decimal

def zeros (n : Nat) : String := String.ofList (List.replicate n '0')

/-- Positional, with a point only where a fraction exists. -/
def positional (d : Decimal) : String :=
  let text := d.digitText
  if 0 ≤ d.exponent then
    (if d.digits = 0 then "0" else text ++ zeros d.exponent.toNat)
  else
    let places := d.exponent.natAbs
    let padded := zeros (places + 1 - text.length) ++ text
    let chars := padded.toList
    String.ofList (chars.take (chars.length - places)) ++ "." ++
      String.ofList (chars.drop (chars.length - places))

/-- One digit before the point, and an exponent that always has a sign. -/
def scientific (d : Decimal) : String :=
  let e := d.lead
  let mantissa :=
    match d.digitText.toList with
    | [] => ""
    | [c] => String.singleton c
    | c :: cs => String.singleton c ++ "." ++ String.ofList cs
  mantissa ++ (if e < 0 then "e-" else "e+") ++ toString e.natAbs

end Decimal

namespace Binary64

def signText (x : Binary64) : String := if x.negative then "-" else ""

/-- The layout of data texts: a point always shows that the number is a float, the
positional form is kept for decimal exponents from -5 to 15, and ties go to the even
digit. -/
def toText (x : Binary64) : String :=
  let d := x.shortest .toEven
  x.signText ++
    if -5 ≤ d.lead ∧ d.lead < 16 then
      (if 0 ≤ d.exponent then d.positional ++ ".0" else d.positional)
    else d.scientific

/-- The layout of messages to people: positional, with no point on whole numbers, and ties
go up. -/
def toPlainText (x : Binary64) : String :=
  x.signText ++ (x.shortest .up).positional

end Binary64
end MqttRouting
