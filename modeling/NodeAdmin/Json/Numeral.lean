import NodeAdmin.Double.Arithmetic
import NodeAdmin.Double.Reading
import NodeAdmin.Word.Bounds

/-!
# Numbers in JSON texts

A number without fraction and exponent is a whole number if it fits into 64
bits, signed when negative and unsigned otherwise; minus zero does not count as
whole. Any other number becomes a double in the quick way: as many digits as
fit into 64 bits make a significand, the digits after them only count for the
power of ten, and the significand is multiplied or divided by that power, each
step rounding. The result may differ from the nearest double in its last bits.
-/

namespace NodeAdmin.Json

/-- The value of a number in a text. -/
inductive Numeral where
  | whole (value : Int)
  | double (value : Double)
  deriving DecidableEq

/-- The parts of a number that follows the grammar. -/
structure NumeralParts where
  negative : Bool
  whole : List Char
  fraction : List Char
  hasFraction : Bool
  exponentNegative : Bool
  exponent : List Char
  hasExponent : Bool

/-- Appends digits to a significand as long as it stays below `2 ^ 64`, and
tells how many digits were left over. -/
def appendDigits (significand : Nat) : List Char → Nat × Nat
  | [] => (significand, 0)
  | digit :: rest =>
      let longer := significand * 10 + (digit.toNat - 48)
      if Word.isWord64 longer then appendDigits longer rest
      else (significand, rest.length + 1)

/-- Multiplies or divides by a power of ten in steps that have an exact
exponent range; absent when the result is too large. -/
def scaleByPower : Nat → Double → Int → Option Double
  | 0, value, _ => some value
  | steps + 1, value, exponent =>
      if 308 < exponent.natAbs then
        if value.isZero then some value
        else if 0 ≤ exponent then none
        else scaleByPower steps (value / Double.ofNat (Nat.pow 10 308)) (exponent + 308)
      else if 0 ≤ exponent then
        let scaled := value * Double.ofNat (Nat.pow 10 exponent.natAbs)
        if scaled.isInfinite then none else some scaled
      else some (value / Double.ofNat (Nat.pow 10 exponent.natAbs))

/-- The double of a significand and a power of ten; after three divisions every
significand of 64 bits has become zero. -/
def quickDouble (negative : Bool) (significand : Nat) (exponent : Int) :
    Option Double :=
  (scaleByPower 4 (Double.ofNat significand) exponent).map fun value =>
    if negative then -value else value

namespace NumeralParts

/-- Exponents past 32 bits are not read: the number is too large, or zero. -/
def toDouble (parts : NumeralParts) : Option Double :=
  let front := appendDigits 0 parts.whole
  let all := appendDigits front.1 parts.fraction
  let used : Int := parts.fraction.length - all.2
  let shift : Int := front.2 - used
  let size := digitsValue parts.exponent
  if Nat.pow 2 31 ≤ size then
    if all.1 ≠ 0 ∧ ¬ parts.exponentNegative then none
    else some (.number parts.negative Magnitude.zero)
  else
    let exponent : Int := if parts.exponentNegative then -size else size
    quickDouble parts.negative all.1 (shift + exponent)

/-- The value of a number, absent when it is beyond the doubles. -/
def value? (parts : NumeralParts) : Option Numeral :=
  let all := digitsValue parts.whole
  if parts.hasFraction ∨ parts.hasExponent ∨ ¬ Word.isWord64 all then
    parts.toDouble.map .double
  else if ¬ parts.negative then some (.whole all)
  else if 1 ≤ all ∧ Word.isSigned64 (-(all : Int)) then some (.whole (-(all : Int)))
  else some (.double (-(Double.ofNat all)))

end NumeralParts

end NodeAdmin.Json
