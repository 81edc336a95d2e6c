import ClusterBlueprint.Binary64
/-!
# Binary64 — the shortest decimal, and its two layouts

A finite number is shown by the decimal with the fewest digits that reads
back as the same number and, of those, by the nearest one. The search goes
through the grids of powers of ten from the coarsest down and stops at the
first that has a point among the decimals rounding to the number: a coarser
grid means fewer digits. Everything is compared in integers, scaled by
`10 ^ 324` and by a quarter of the smallest unit, so that the ends of the
rounding interval are whole.

The decimal is laid out in two ways. Messages show it positionally, however
long that is; documents use an exponent outside a fixed range and always
show that the number is not an integer. A number that stands exactly between
two shortest decimals goes to the larger one in messages and to the even one
in documents.
-/

namespace ClusterBlueprint

namespace Binary64

/-- The decimal `digits * 10 ^ exponent`. -/
structure Decimal where
  digits : Nat
  exponent : Int
deriving DecidableEq

/-- The decimals that round to a number, as an interval around it. All
three bounds carry the factor `4 * 2 ^ 1074 * 10 ^ 324`. -/
structure Interval where
  low : Nat
  mid : Nat
  high : Nat
  /-- Whether the two ends belong: they round to an even significand. -/
  closed : Bool

/-- The interval of a positive finite number. It reaches halfway to each
neighbour; the lower neighbour of a power of two is at half the distance. -/
def interval (x : Binary64) : Interval :=
  let step := 2 ^ x.scale
  let below := if x.fractionField = 0 ∧ x.scale > 0 then step else 2 * step
  { low := (4 * x.magnitude - below) * 10 ^ 324
    mid := 4 * x.magnitude * 10 ^ 324
    high := (4 * x.magnitude + 2 * step) * 10 ^ 324
    closed := x.significand % 2 == 0 }

/-- Which of two equally near decimals is taken. -/
inductive Tie where
  | toEven
  | away
deriving DecidableEq

/-- Whether a tie goes to the one nearer to zero, which has these digits. -/
def Tie.prefersLow (tie : Tie) (digits : Nat) : Bool :=
  match tie with
  | .toEven => digits % 2 == 0
  | .away => false

namespace Interval

/-- Whether a scaled point rounds to the number. -/
def contains (i : Interval) (point : Nat) : Bool :=
  if i.closed then i.low ≤ point && point ≤ i.high else i.low < point && point < i.high

/-- The multiple of `10 ^ (n - 324)` nearest to the number, among those
that round to it. Only the two around the number can be nearest. -/
def onGrid (i : Interval) (tie : Tie) (n : Nat) : Option Nat :=
  let unit := 4 * one * 10 ^ n
  let below := i.mid / unit
  let rest := i.mid % unit
  let lowHit := i.contains (below * unit)
  let highHit := i.contains ((below + 1) * unit)
  let preferLow := 2 * rest < unit || (2 * rest == unit && tie.prefersLow below)
  if lowHit && (preferLow || !highHit) then some below
  else if highHit then some (below + 1)
  else none

/-- The first hit on the grids `10 ^ (n - 324)`, …, `10 ^ (-324)`. -/
def search (i : Interval) (tie : Tie) : Nat → Decimal
  | 0 => ⟨(i.onGrid tie 0).getD 0, -324⟩
  | n + 1 =>
    match i.onGrid tie (n + 1) with
    | some digits => ⟨digits, (n + 1 : Int) - 324⟩
    | none => i.search tie n

end Interval

/-- The shortest decimal that rounds to the size of a finite number. The
search starts above the largest number's leading digit. -/
def shortest (x : Binary64) (tie : Tie) : Decimal :=
  if x.magnitude = 0 then ⟨0, 0⟩ else x.interval.search tie (309 + 324)

/-- The minus sign of a negative number, the zero included. -/
def sign (x : Binary64) : String := if x.isNegative then "-" else ""

/-- Digits with a decimal point put after the first `n` of them. -/
def pointAfter (n : Nat) (ds : List Char) : String :=
  String.ofList (ds.take n ++ '.' :: ds.drop n)

/-- Positional layout: zeros fill the places down to the point, or up to
it; `whole` ends a number that has no places after the point. -/
def positional (d : Decimal) (whole : String) : String :=
  let ds := Nat.toDigits 10 d.digits
  if 0 ≤ d.exponent then String.ofList (ds ++ List.replicate d.exponent.toNat '0') ++ whole
  else
    let places := (-d.exponent).toNat
    if places < ds.length then pointAfter (ds.length - places) ds
    else pointAfter 1 (List.replicate (places + 1 - ds.length) '0' ++ ds)

/-- The number as a message shows it: positional, without a point when it
is an integer, and the larger decimal of two equally near ones. -/
def toMessage (x : Binary64) : String :=
  if x.isNaN then "NaN"
  else if !x.isFinite then x.sign ++ "inf"
  else x.sign ++ positional (x.shortest .away) ""

/-- Exponent layout: one digit, the others after a point, and the power of
ten with its sign. -/
def scientific (d : Decimal) : String :=
  let ds := Nat.toDigits 10 d.digits
  let power := d.exponent + (ds.length - 1 : Nat)
  let head := if ds.length = 1 then String.ofList ds else pointAfter 1 ds
  head ++ (if power < 0 then "e-" else "e+") ++ toString power.natAbs

/-- The number as a document shows it: positional while its leading digit
stands at `10 ^ (-5)` to `10 ^ 15`, with `.0` after an integer, and with an
exponent otherwise. The even decimal of two equally near ones is shown. -/
def toDocument (x : Binary64) : String :=
  let d := x.shortest .toEven
  let power := d.exponent + ((Nat.toDigits 10 d.digits).length - 1 : Nat)
  x.sign ++ if -5 ≤ power ∧ power < 16 then positional d ".0" else scientific d

end Binary64

end ClusterBlueprint
