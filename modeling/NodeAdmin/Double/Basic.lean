/-!
# Doubles

A double is not-a-number or a sign with a magnitude. Magnitudes are counted:
zero is number 0, every next number is the next larger magnitude, and the last
one is infinity. Comparing magnitudes is therefore comparing natural numbers,
and rounding is finding the right number.
-/

namespace NodeAdmin

/-- The number of the infinite magnitude: 2046 binades and the subnormal range
come before it. -/
def infiniteOrdinal : Nat := 2047 * Nat.pow 2 52

/-- A magnitude, given by its place among all magnitudes. -/
abbrev Magnitude := Fin (infiniteOrdinal + 1)

/-- Double-precision numbers. -/
inductive Double where
  | nan
  | number (negative : Bool) (magnitude : Magnitude)
  deriving DecidableEq, Repr

namespace Magnitude

/-- The exact value of a finite magnitude, counted in the smallest positive
double, `2 ^ -1074`. Below `2 ^ 53` the ordinal is that count; above, each
binade of `2 ^ 52` magnitudes doubles the spacing. -/
def unitsOf (ordinal : Nat) : Nat :=
  let binade := Nat.pow 2 52
  if ordinal < 2 * binade then ordinal
  else (binade + ordinal % binade) * Nat.pow 2 (ordinal / binade - 1)

def units (magnitude : Magnitude) : Nat := unitsOf magnitude.val

def zero : Magnitude := ⟨0, Nat.zero_lt_succ _⟩

def infinite : Magnitude := ⟨infiniteOrdinal, Nat.lt_succ_self _⟩

/-- Ordinals past the last one name the infinite magnitude. -/
def ofOrdinal (ordinal : Nat) : Magnitude :=
  ⟨min infiniteOrdinal ordinal, Nat.lt_succ_of_le (Nat.min_le_left _ _)⟩

end Magnitude

namespace Double

/-- How many of the smallest positive doubles make one. -/
def unitsPerOne : Nat := Nat.pow 2 1074

def zero : Double := .number false Magnitude.zero

def infinity : Double := .number false Magnitude.infinite

def isFinite : Double → Bool
  | nan => false
  | number _ magnitude => magnitude.val < infiniteOrdinal

def isInfinite : Double → Bool
  | nan => false
  | number _ magnitude => magnitude.val == infiniteOrdinal

def neg : Double → Double
  | nan => nan
  | number negative magnitude => number (!negative) magnitude

/-- The place of a number in the order of doubles; the two zeros share a
place. -/
def rank (negative : Bool) (magnitude : Magnitude) : Int :=
  if negative then -(magnitude.val : Int) else magnitude.val

/-- The order of doubles. Not-a-number is neither below nor above anything. -/
def lt : Double → Double → Bool
  | number leftSign left, number rightSign right =>
      rank leftSign left < rank rightSign right
  | _, _ => false

/-- Not-a-number is not even at most itself. -/
def le : Double → Double → Bool
  | number leftSign left, number rightSign right =>
      rank leftSign left ≤ rank rightSign right
  | _, _ => false

def isZero : Double → Bool
  | nan => false
  | number _ magnitude => magnitude.val == 0

/-- The larger of two doubles. Not-a-number loses against a number. -/
def max (left right : Double) : Double :=
  match left, right with
  | nan, _ => right
  | _, nan => left
  | _, _ => if left.lt right then right else left

/-- Whether a double is above zero. -/
def isPositive (value : Double) : Bool := zero.lt value

end Double

end NodeAdmin
