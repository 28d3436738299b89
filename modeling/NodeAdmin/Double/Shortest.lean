import NodeAdmin.Double.Rounding

/-!
# Shortest decimals of doubles

A decimal reads back as a double when it lies in the interval of reals that
round to that double; the ends belong to it when the magnitude is even. The
shortest decimal of a double is the one with the fewest digits in that
interval, and the nearest of those.
-/

namespace NodeAdmin

/-- A decimal significand with the power of ten of its last digit. -/
structure Decimal where
  significand : Nat
  exponent : Int
  deriving DecidableEq, Repr

/-- Which of two equally near decimals is taken. -/
inductive TieBreak where
  | toEven
  | upward
  deriving DecidableEq, Repr

namespace Decimal

/-- Digits of the significand. -/
def digits (decimal : Decimal) : List Char := Nat.toDigits 10 decimal.significand

/-- The power of ten of the first digit. -/
def scale (decimal : Decimal) : Int :=
  decimal.exponent + (decimal.digits.length : Int) - 1

/-- The same number without zeros at the end of its significand. -/
def trimZeros : Nat → Decimal → Decimal
  | 0, decimal => decimal
  | steps + 1, decimal =>
      if decimal.significand ≠ 0 ∧ decimal.significand % 10 = 0 then
        trimZeros steps ⟨decimal.significand / 10, decimal.exponent + 1⟩
      else decimal

end Decimal

namespace Magnitude

/-- Twice the ends of the interval that rounds to a magnitude, in smallest
doubles. -/
def lowerEnd (ordinal : Nat) : Nat := unitsOf (ordinal - 1) + unitsOf ordinal

def upperEnd (ordinal : Nat) : Nat := unitsOf ordinal + unitsOf (ordinal + 1)

/-- Whether `numerator / denominator`, counted in half smallest doubles, rounds
to the magnitude. -/
def rounds (ordinal numerator denominator : Nat) : Bool :=
  let lower := lowerEnd ordinal * denominator
  let upper := upperEnd ordinal * denominator
  if ordinal % 2 = 0 then lower ≤ numerator && numerator ≤ upper
  else lower < numerator && numerator < upper

/-- The largest power of ten with a negative exponent that is at most
`units / 2 ^ 1074`, found by multiplying until one is reached. -/
def negativeScale : Nat → Nat → Nat → Int
  | 0, _, steps => -(steps : Int)
  | fuel + 1, units, steps =>
      if Double.unitsPerOne ≤ units then -(steps : Int)
      else negativeScale fuel (units * 10) (steps + 1)

/-- The power of ten of the first significant digit of a magnitude. -/
def decimalScale (units : Nat) : Int :=
  let whole := units / Double.unitsPerOne
  if 0 < whole then ((Nat.toDigits 10 whole).length : Int) - 1
  else negativeScale 400 units 0

/-- A candidate `significand * 10 ^ exponent` as a quotient counted in half
smallest doubles. -/
def halfUnits (significand : Nat) (exponent : Int) : Nat × Nat :=
  if 0 ≤ exponent then
    (significand * Nat.pow 10 exponent.toNat * (2 * Double.unitsPerOne), 1)
  else (significand * (2 * Double.unitsPerOne), Nat.pow 10 (-exponent).toNat)

/-- The decimal with last digit at `10 ^ exponent` that rounds to the magnitude
and is nearest to it, if its grid has one. Only the two neighbours of the
magnitude on the grid can be nearest. -/
def onGrid (tie : TieBreak) (ordinal : Nat) (exponent : Int) : Option Decimal :=
  let units := unitsOf ordinal
  let below :=
    if 0 ≤ exponent then units / (Double.unitsPerOne * Nat.pow 10 exponent.toNat)
    else units * Nat.pow 10 (-exponent).toNat / Double.unitsPerOne
  let belowUnits := halfUnits below exponent
  let aboveUnits := halfUnits (below + 1) exponent
  let belowRounds := rounds ordinal belowUnits.1 belowUnits.2
  let aboveRounds := rounds ordinal aboveUnits.1 aboveUnits.2
  let value := 2 * units * belowUnits.2
  let distanceBelow := value - belowUnits.1
  let distanceAbove := aboveUnits.1 - value
  if belowRounds && aboveRounds then
    if distanceBelow < distanceAbove then some ⟨below, exponent⟩
    else if distanceAbove < distanceBelow then some ⟨below + 1, exponent⟩
    else match tie with
      | .toEven => some ⟨below + below % 2, exponent⟩
      | .upward => some ⟨below + 1, exponent⟩
  else if belowRounds then some ⟨below, exponent⟩
  else if aboveRounds then some ⟨below + 1, exponent⟩
  else none

/-- The first grid with a hit, from one significant digit on. -/
def firstOnGrid (tie : TieBreak) (ordinal : Nat) : Nat → Int → Decimal
  | 0, exponent => ⟨unitsOf ordinal, exponent⟩
  | more + 1, exponent =>
      match onGrid tie ordinal exponent with
      | some decimal => decimal
      | none => firstOnGrid tie ordinal more (exponent - 1)

/-- The shortest decimal of a finite magnitude other than zero. Seventeen
digits always suffice. -/
def shortest (tie : TieBreak) (magnitude : Magnitude) : Decimal :=
  if magnitude.val = 0 then ⟨0, 0⟩
  else (firstOnGrid tie magnitude.val 18 (decimalScale magnitude.units)).trimZeros 20

end Magnitude

end NodeAdmin
