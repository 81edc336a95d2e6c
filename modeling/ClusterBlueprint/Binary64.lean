import ClusterBlueprint.Power
/-!
# Binary64 — the numbers that capacities are measured in

A capacity in a claim is a number of the IEEE 754 format `binary64`. The
type here is its 64 bits, so two numbers are equal when they are the same
bit for bit, and every question about a value is asked of an integer: a
finite number is a whole multiple of `2 ^ (-1074)`, the smallest positive
one, and `units` says which multiple. Comparison, divisibility and rounding
are then exact arithmetic of integers.
-/

namespace ClusterBlueprint

/-- A number of the format `binary64`, as its bits: sign, eleven bits of
exponent, fifty-two bits of fraction. -/
structure Binary64 where
  bits : UInt64
deriving DecidableEq

namespace Binary64

/-- The sign bit. -/
def isNegative (x : Binary64) : Bool := decide (2 ^ 63 ≤ x.bits.toNat)

/-- The biased exponent. -/
def exponentField (x : Binary64) : Nat := x.bits.toNat / 2 ^ 52 % 2 ^ 11

/-- The fraction, without the leading one that a normal number implies. -/
def fractionField (x : Binary64) : Nat := x.bits.toNat % 2 ^ 52

/-- Neither an infinity nor a NaN: those two have the largest exponent. -/
def isFinite (x : Binary64) : Bool := decide (x.exponentField < 2047)

/-- An exponent field of all ones and a fraction other than zero. -/
def isNaN (x : Binary64) : Bool := !x.isFinite && x.fractionField != 0

/-- The integer significand: a normal number has a leading one above its
fraction, a subnormal one has not. -/
def significand (x : Binary64) : Nat :=
  if x.exponentField = 0 then x.fractionField else 2 ^ 52 + x.fractionField

/-- The power of two that scales the significand, counted from the
subnormal numbers, which share theirs with the smallest normal ones. -/
def scale (x : Binary64) : Nat := x.exponentField - 1

/-- The size of a finite number, in multiples of `2 ^ (-1074)`. -/
def magnitude (x : Binary64) : Nat := x.significand * 2 ^ x.scale

/-- A finite number in multiples of `2 ^ (-1074)`. -/
def units (x : Binary64) : Int :=
  if x.isNegative then -(x.magnitude : Int) else x.magnitude

/-- How many units make one. -/
def one : Nat := 2 ^ 1074

/-- The bits of a size, with a sign. -/
def ofBits (negative : Bool) (size : Nat) : Binary64 :=
  ⟨UInt64.ofNat (if negative then 2 ^ 63 + size else size)⟩

/-- The infinity of a sign. -/
def infinity (negative : Bool) : Binary64 := ofBits negative (2047 * 2 ^ 52)

/-- The NaN whose fraction is a single leading one. -/
def nan : Binary64 := ofBits false (2047 * 2 ^ 52 + 2 ^ 51)

/-- `num / den`, rounded to the nearest integer, ties to the even one. -/
def roundQuotient (num den : Nat) : Nat :=
  let q := num / den
  let r := num % den
  if 2 * r > den ∨ (2 * r = den ∧ q % 2 = 1) then q + 1 else q

/-- The number nearest to `num / den`, ties to the even significand. The
quotient is taken on the grid of the numbers of its size: `shift` is the
power of two between neighbours. A significand `m` on that grid has the
bits `shift * 2 ^ 52 + m`, also when it is subnormal and when rounding has
carried it into the next power; past the largest number lies infinity. -/
def nearest (negative : Bool) (num den : Nat) : Binary64 :=
  let scaled := num * one
  let shift := Nat.log2 (scaled / den) - 52
  let size := shift * 2 ^ 52 + roundQuotient scaled (den * 2 ^ shift)
  ofBits negative (min size (2047 * 2 ^ 52))

/-- The number nearest to `digits * 10 ^ exponent`. A size beyond
`10 ^ 400` or below `10 ^ (-400)` is settled without computing the power:
it rounds to infinity and to zero. -/
def ofDecimal (negative : Bool) (digits : Nat) (exponent : Int) : Binary64 :=
  let top : Int := (Nat.toDigits 10 digits).length + exponent
  if digits = 0 ∨ top < -400 then ofBits negative 0
  else if top > 400 then infinity negative
  else if 0 ≤ exponent then nearest negative (digits * 10 ^ exponent.toNat) 1
  else nearest negative digits (10 ^ (-exponent).toNat)

/-- The product of two finite numbers, rounded once. -/
def mul (x y : Binary64) : Binary64 :=
  nearest (x.isNegative != y.isNegative) (x.magnitude * y.magnitude) (one * one)

/-- The quotient of two finite numbers, rounded once; the divisor is not
zero. -/
def div (x y : Binary64) : Binary64 :=
  nearest (x.isNegative != y.isNegative) x.magnitude y.magnitude

/-- The number nearest to a power of ten. -/
def tenTo (power : Nat) : Binary64 := ofDecimal false 1 power

/-- The largest power of ten among the finite numbers. -/
def maxTenPower : Nat := 308

/-- A number divided by a power of ten. A power too large for a number is
divided by in parts, each of them rounded, until nothing is left. -/
def divTenTo (x : Binary64) (power : Nat) : Binary64 :=
  if power ≤ maxTenPower then x.div (tenTo power)
  else if x.magnitude = 0 then x
  else (x.div (tenTo maxTenPower)).divTenTo (power - maxTenPower)
termination_by power
decreasing_by simp only [maxTenPower] at *; omega

/-- A number scaled by a power of ten, the rounded power rounded in again;
`none` if that leaves the finite numbers. -/
def scaleTen? (x : Binary64) (power : Int) : Option Binary64 :=
  if power < 0 then some (x.divTenTo power.natAbs)
  else if x.magnitude = 0 then some x
  else if power.natAbs ≤ maxTenPower then
    let scaled := x.mul (tenTo power.natAbs)
    if scaled.isFinite then some scaled else none
  else none

/-- The number nearest to an integer. -/
def ofInt (n : Int) : Binary64 := nearest (decide (n < 0)) n.natAbs 1

/-- Strictly less, for finite numbers: the two zeros are equal. -/
def lt (x y : Binary64) : Bool := decide (x.units < y.units)

/-- Whether a finite number is a whole multiple of one half. -/
def isMultipleOfHalf (x : Binary64) : Bool := decide (x.magnitude % 2 ^ 1073 = 0)

end Binary64

end ClusterBlueprint
