import NodeAdmin.Double.Rounding
import NodeAdmin.Word.Bounds

/-!
# Arithmetic of doubles

Sums, products and quotients are computed exactly on integers and rounded once.
Infinities and not-a-number follow the usual rules: a sum of opposite
infinities, zero times infinity, zero over zero and infinity over infinity are
not numbers.
-/

namespace NodeAdmin.Double

/-- The signed count of smallest doubles in a finite number. -/
def signedUnits (negative : Bool) (magnitude : Magnitude) : Int :=
  if negative then -(magnitude.units : Int) else magnitude.units

def isInfiniteMagnitude (magnitude : Magnitude) : Bool :=
  magnitude.val == infiniteOrdinal

/-- Sums. An exact zero is negative only when both terms are. -/
def add : Double → Double → Double
  | number leftSign left, number rightSign right =>
      if isInfiniteMagnitude left then
        if isInfiniteMagnitude right && leftSign != rightSign then nan
        else number leftSign left
      else if isInfiniteMagnitude right then number rightSign right
      else
        let sum := signedUnits leftSign left + signedUnits rightSign right
        if sum = 0 then number (leftSign && rightSign) Magnitude.zero
        else number (sum < 0) (Magnitude.ofQuotient sum.natAbs 1)
  | _, _ => nan

/-- Products. The sign is negative when exactly one factor is. -/
def mul : Double → Double → Double
  | number leftSign left, number rightSign right =>
      let negative := leftSign != rightSign
      if isInfiniteMagnitude left || isInfiniteMagnitude right then
        if left.val == 0 || right.val == 0 then nan
        else number negative Magnitude.infinite
      else number negative
        (Magnitude.ofQuotient (left.units * right.units) unitsPerOne)
  | _, _ => nan

/-- Quotients. A number other than zero over zero is infinite. -/
def div : Double → Double → Double
  | number leftSign left, number rightSign right =>
      let negative := leftSign != rightSign
      if isInfiniteMagnitude left then
        if isInfiniteMagnitude right then nan
        else number negative Magnitude.infinite
      else if isInfiniteMagnitude right then number negative Magnitude.zero
      else if right.val == 0 then
        if left.val == 0 then nan else number negative Magnitude.infinite
      else number negative
        (Magnitude.ofQuotient (left.units * unitsPerOne) right.units)
  | _, _ => nan

instance : Add Double := ⟨add⟩
instance : Mul Double := ⟨mul⟩
instance : Div Double := ⟨div⟩
instance : Neg Double := ⟨neg⟩

/-- A whole number as a double of the given sign. -/
def ofWhole (negative : Bool) (whole : Nat) : Double :=
  ofQuotient negative whole 1

/-- The smallest whole number at or above a double. -/
def ceil : Double → Double
  | nan => nan
  | number negative magnitude =>
      if isInfiniteMagnitude magnitude then number negative magnitude
      else
        let whole := magnitude.units / unitsPerOne
        let fraction := magnitude.units % unitsPerOne
        if negative || fraction = 0 then ofWhole negative whole
        else ofWhole false (whole + 1)

/-- The nearest whole number, a half going away from zero. -/
def round : Double → Double
  | nan => nan
  | number negative magnitude =>
      if isInfiniteMagnitude magnitude then number negative magnitude
      else ofWhole negative
        ((2 * magnitude.units + unitsPerOne) / (2 * unitsPerOne))

/-- The whole part of a double as an integer between two bounds; what lies
outside goes to the nearer bound and not-a-number to zero. -/
def toIntClamped (lowest highest : Int) : Double → Int
  | nan => 0
  | number negative magnitude =>
      if isInfiniteMagnitude magnitude then
        if negative then lowest else highest
      else
        let whole : Int := magnitude.units / unitsPerOne
        let signed := if negative then -whole else whole
        Max.max lowest (Min.min highest signed)

/-- The whole part as a 64-bit count. -/
def toUInt64 (value : Double) : UInt64 :=
  UInt64.ofNat (value.toIntClamped 0 (Word.bound64 - 1)).toNat

/-- The whole part as a signed 64-bit integer. -/
def toInt64 (value : Double) : Int64 :=
  Int64.ofInt (value.toIntClamped (-Word.signedBound64) (Word.signedBound64 - 1))

def ofUInt64 (value : UInt64) : Double := ofNat value.toNat

end NodeAdmin.Double
