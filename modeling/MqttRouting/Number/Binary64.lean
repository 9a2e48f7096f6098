/-!
Finite binary64 numbers in exact arithmetic. A magnitude is its rank among the
magnitudes, which is also its bit pattern without the sign: rank `c` has the
biased exponent `c / binade` and the fraction `c % binade`. Rounding, products
and quotients go through ratios of natural numbers; no infinity or NaN exists
here, so they answer `none` where the result would be one.
-/

namespace MqttRouting

/-- How many magnitudes have one exponent: there are 52 bits of fraction. -/
abbrev Binary64.binade : Nat := 0x10000000000000

structure Binary64 where
  negative : Bool
  rank : Nat
  finite : rank < 2047 * Binary64.binade := by decide
  deriving DecidableEq

namespace Binary64

def zero : Binary64 := ⟨false, 0, by decide⟩

def isZero (x : Binary64) : Bool := x.rank == 0

def significand (x : Binary64) : Nat :=
  if x.rank / binade = 0 then x.rank else binade + x.rank % binade

/-- The magnitude is `significand * 2 ^ (shift - 1074)`. -/
def shift (x : Binary64) : Nat := x.rank / binade - 1

/-- The magnitude as a ratio. -/
def ratio (x : Binary64) : Nat × Nat := (x.significand <<< x.shift, 1 <<< 1074)

/-- `num / den` to the nearest natural number, a half to the even one. -/
def nearest (num den : Nat) : Nat :=
  let whole := num / den
  let double := 2 * (num % den)
  if double < den then whole
  else if double = den then whole + whole % 2
  else whole + 1

/-- The rank nearest to `num / den`, unless it is past the largest one. With the
unit of the last place `2 ^ (shift - 1074)`, a significand that rounds up to
`2 ^ 53` gives the rank of the next binade by the same formula. -/
def rankOfRatio (num den : Nat) : Nat :=
  let units := (num <<< 1074) / den
  let shift := units.log2 - 52
  shift * binade + nearest (num <<< 1074) (den <<< shift)

def ofRatio (negative : Bool) (num den : Nat) : Option Binary64 :=
  let rank := rankOfRatio num den
  if h : rank < 2047 * binade then some ⟨negative, rank, h⟩ else none

def ofNat (n : Nat) : Option Binary64 := ofRatio false n 1

def mul (x y : Binary64) : Option Binary64 :=
  let (a, b) := x.ratio
  let (c, d) := y.ratio
  ofRatio (x.negative != y.negative) (a * c) (b * d)

/-- Meant for a divisor that is not zero. -/
def div (x y : Binary64) : Option Binary64 :=
  let (a, b) := x.ratio
  let (c, d) := y.ratio
  ofRatio (x.negative != y.negative) (a * d) (b * c)

/-- The largest power of ten that one step of scaling uses. -/
def scaleLimit : Nat := 308

/-- Divides by a power of ten: one rounded quotient for each started block of
`scaleLimit` powers. Zero stays what it is. -/
def scaleDown (x : Binary64) (exponent : Nat) : Option Binary64 :=
  if exponent ≤ scaleLimit then ofNat (Nat.pow 10 exponent) >>= div x
  else if x.isZero then some x
  else ofNat (Nat.pow 10 scaleLimit) >>= div x >>= fun y => scaleDown y (exponent - scaleLimit)
termination_by exponent
decreasing_by simp only [scaleLimit] at *; omega

/-- Multiplies by a power of ten in one rounded product; a power past `scaleLimit`
leaves the finite range unless the number is zero. -/
def scaleUp (x : Binary64) (exponent : Nat) : Option Binary64 :=
  if exponent ≤ scaleLimit then ofNat (Nat.pow 10 exponent) >>= mul x
  else if x.isZero then some x
  else none

/-- The number written with `digits` and a decimal exponent. The digits are rounded
first and the scaling rounds again, so the answer may be a unit in the last place
away from the nearest number. -/
def ofDecimal (digits : Nat) (exponent : Int) : Option Binary64 :=
  ofNat digits >>= fun x =>
    if exponent < 0 then scaleDown x exponent.natAbs
    else scaleUp x exponent.toNat

/-- Whether the magnitude, with its sign, is above `n`. -/
def above (x : Binary64) (n : Nat) : Bool :=
  let (a, b) := x.ratio
  !x.negative && n * b < a

end Binary64
end MqttRouting
