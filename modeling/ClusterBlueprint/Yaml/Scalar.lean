import ClusterBlueprint.Json.Reader
/-!
# Yaml — what a plain scalar stands for

A scalar without quotes is a text unless it is written like something else:
like nothing at all, a truth value, an integer in one of four bases, or a
decimal number. Digits after a leading zero make no number. An integer that
no document can hold makes the whole text unreadable; beyond 128 bits it is
a decimal like any other.
-/

namespace ClusterBlueprint

namespace Yaml

/-- The spellings of nothing. -/
def nullWords : List String := ["~", "null", "Null", "NULL"]

/-- The spellings of truth. -/
def trueWords : List String := ["true", "True", "TRUE"]

/-- The spellings of falsehood. -/
def falseWords : List String := ["false", "False", "FALSE"]

/-- The truth value that a scalar is written like. -/
def boolean? (cs : List Char) : Option Bool :=
  if String.ofList cs ∈ trueWords then some true
  else if String.ofList cs ∈ falseWords then some false
  else none

/-- The value of a digit in a base up to sixteen. -/
def digitIn? (base : Nat) (c : Char) : Option Nat := (Json.hexDigit? c).filter (· < base)

/-- The value of a nonempty run of digits in a base. -/
def digitsIn? (base : Nat) (cs : List Char) : Option Nat :=
  if cs.isEmpty then none
  else (cs.mapM (digitIn? base)).map (List.foldl (fun n d => n * base + d) 0)

/-- The digits of an integer without its sign, and the base that its
beginning gives them. -/
def basedDigits (cs : List Char) : Nat × List Char :=
  match cs with
  | '0' :: 'x' :: rest => (16, rest)
  | '0' :: 'o' :: rest => (8, rest)
  | '0' :: 'b' :: rest => (2, rest)
  | _ => (10, cs)

/-- Digits after a leading zero. -/
def hasLeadingZero (cs : List Char) : Bool :=
  cs.head? = some '0' && cs.length > 1 && cs.all Char.isDigit

/-- A sign, if there is one, and the rest. -/
def splitSign (cs : List Char) : Option Char × List Char :=
  match cs with
  | '+' :: rest => (some '+', rest)
  | '-' :: rest => (some '-', rest)
  | _ => (none, cs)

/-- The integer that a scalar is written like. -/
def integer? (cs : List Char) : Option Int :=
  let (sign, rest) := splitSign cs
  let (base, digits) := basedDigits rest
  if hasLeadingZero rest then none
  else (digitsIn? base digits).map fun n => if sign = some '-' then -(n : Int) else n

/-- The decimal number that a scalar is written like: digits around an
optional point, with an optional exponent. -/
def decimal? (cs : List Char) : Option Binary64 :=
  let (sign, rest) := splitSign cs
  let (whole, rest) := Json.spanDigits rest
  let (places, rest) := match rest with
    | '.' :: rest => Json.spanDigits rest
    | _ => ([], rest)
  if (whole ++ places).isEmpty then none
  else match Json.readExponent rest with
    | some (power, []) =>
      let x := Binary64.ofDecimal (sign = some '-') (Nat.ofDigitChars 10 (whole ++ places) 0)
        (power - places.length)
      if x.isFinite then some x else none
    | _ => none

/-- The words for what no number reaches. They stand for no document value
and read as nothing. -/
def beyondNumbers : List String :=
  [".inf", ".Inf", ".INF", "+.inf", "+.Inf", "+.INF", "-.inf", "-.Inf", "-.INF", ".nan", ".NaN",
    ".NAN"]

/-- The document of an integer. Between 64 and 128 bits there is none. -/
def integerValue? (n : Int) : Option Json :=
  if -(2 ^ 63) ≤ n ∧ n < 2 ^ 64 then some (.integer n) else none

/-- The document that a scalar written like a number with a point or an
exponent stands for. -/
def float? (cs : List Char) : Option Json :=
  if String.ofList cs ∈ beyondNumbers then some .null else (decimal? cs).map .decimal

/-- The document that a plain scalar stands for; `none` if there is none
for it. -/
def plain? (cs : List Char) : Option Json :=
  let text : Json := .text (String.ofList cs)
  if cs.isEmpty ∨ String.ofList cs ∈ nullWords then some .null
  else match boolean? cs with
    | some b => some (.bool b)
    | none =>
      match integer? cs with
      | some n =>
        if -(2 ^ 127) ≤ n ∧ n < 2 ^ 128 then integerValue? n else some ((float? cs).getD text)
      | none =>
        if hasLeadingZero (splitSign cs).2 then some text else some ((float? cs).getD text)

end Yaml

end ClusterBlueprint
