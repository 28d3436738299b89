import NodeAdmin.Double.Basic

/-!
# Rounding quotients to doubles

Every operation on doubles has an exact rational result. This module rounds a
quotient of natural numbers to the nearest magnitude, a tie going to the even
one.
-/

namespace NodeAdmin

/-- A quotient rounded to the nearest natural number, a tie going to the even
neighbour. -/
def roundQuotient (numerator denominator : Nat) : Nat :=
  let quotient := numerator / denominator
  let twice := 2 * (numerator % denominator)
  if twice < denominator then quotient
  else if denominator < twice then quotient + 1
  else quotient + quotient % 2

namespace Magnitude

/-- The magnitude nearest to a quotient counted in smallest doubles. The
quotient is divided by the spacing of its binade, so that rounding it to a
natural number counts magnitudes; `binade` is zero wherever the spacing is the
smallest one. -/
def ofQuotient (numerator denominator : Nat) : Magnitude :=
  let binade := Nat.log2 (numerator / denominator) - 52
  ofOrdinal (binade * Nat.pow 2 52 +
    roundQuotient numerator (denominator * Nat.pow 2 binade))

end Magnitude

namespace Double

/-- The double nearest to a quotient of natural numbers with a sign. -/
def ofQuotient (negative : Bool) (numerator denominator : Nat) : Double :=
  .number negative (Magnitude.ofQuotient (numerator * unitsPerOne) denominator)

def ofNat (value : Nat) : Double := ofQuotient false value 1

def ofInt (value : Int) : Double := ofQuotient (value < 0) value.natAbs 1

/-- The double nearest to `significand * 10 ^ exponent`. Exponents far outside
the range of doubles are settled without computing the power: a significand of
`d` digits lies between `10 ^ (d - 1)` and `10 ^ d`. -/
def ofDecimal (negative : Bool) (significand : Nat) (exponent : Int) : Double :=
  let digits : Int := (Nat.toDigits 10 significand).length
  if significand = 0 then .number negative Magnitude.zero
  else if 310 < exponent + digits then .number negative Magnitude.infinite
  else if exponent + digits < -330 then .number negative Magnitude.zero
  else if 0 ≤ exponent then
    ofQuotient negative (significand * Nat.pow 10 exponent.toNat) 1
  else ofQuotient negative significand (Nat.pow 10 (-exponent).toNat)

end Double

end NodeAdmin
