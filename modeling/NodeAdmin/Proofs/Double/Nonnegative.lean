import NodeAdmin.Double.Arithmetic
import NodeAdmin.Proofs.Double.Rounding

/-!
# Doubles that are at least zero

A double that is at least zero is a magnitude; only the negative zero has a sign of
its own.  Sums, products and quotients of such doubles are again at least zero, and
their magnitudes are exact results that are rounded once.
-/

namespace NodeAdmin

namespace Magnitude

def IsFinite (magnitude : Magnitude) : Prop := magnitude.val < infiniteOrdinal

theorem zero_units_of_val {magnitude : Magnitude} (zero : magnitude.val = 0) :
    magnitude.units = 0 := by
  have size : 0 < binadeSize := by decide
  rw [units, zero, unitsOf_of_lt size]

theorem ofQuotient_zero (denominator : Nat) :
    (ofQuotient 0 denominator).val = 0 := by
  have rounded (divisor : Nat) : roundQuotient 0 divisor = 0 := by
    simp [roundQuotient]
  simp [ofQuotient_val, nearestOrdinal, rounded, binadeOf]

/-- The magnitude of a sum. -/
def sum (left right : Magnitude) : Magnitude :=
  if left.val = infiniteOrdinal ∨ right.val = infiniteOrdinal then infinite
  else ofQuotient (left.units + right.units) 1

theorem val_le_infinite (magnitude : Magnitude) : magnitude.val ≤ infinite.val :=
  Nat.le_of_lt_succ magnitude.isLt

theorem sum_mono {left other right further : Magnitude} (lefts : left.val ≤ other.val)
    (rights : right.val ≤ further.val) :
    (sum left right).val ≤ (sum other further).val := by
  unfold sum
  by_cases infiniteSum : other.val = infiniteOrdinal ∨ further.val = infiniteOrdinal
  · rw [if_pos infiniteSum]
    exact val_le_infinite _
  · have finiteSum : ¬ (left.val = infiniteOrdinal ∨ right.val = infiniteOrdinal) := by
      have otherBound := Nat.le_of_lt_succ other.isLt
      have furtherBound := Nat.le_of_lt_succ further.isLt
      omega
    rw [if_neg infiniteSum, if_neg finiteSum]
    exact ofQuotient_mono Nat.one_pos (Nat.add_le_add (units_mono lefts) (units_mono rights))

end Magnitude

namespace Double

theorem unitsPerOne_pos : 0 < unitsPerOne := by decide +kernel

/-- Whether a double is at least zero and has a magnitude. -/
def HasMagnitude (value : Double) (magnitude : Magnitude) : Prop :=
  ∃ negative, value = number negative magnitude ∧
    (negative = true → magnitude.val = 0)

theorem rank_of_sign {negative : Bool} {magnitude : Magnitude}
    (unsigned : negative = true → magnitude.val = 0) :
    rank negative magnitude = magnitude.val := by
  cases negative with
  | false => rfl
  | true => simp [rank, unsigned rfl]

theorem signedUnits_of_sign {negative : Bool} {magnitude : Magnitude}
    (unsigned : negative = true → magnitude.val = 0) :
    signedUnits negative magnitude = magnitude.units := by
  cases negative with
  | false => rfl
  | true => simp [signedUnits, Magnitude.zero_units_of_val (unsigned rfl)]

theorem hasMagnitude_of_zero_le {value : Double} (atLeast : zero.le value = true) :
    ∃ magnitude, value.HasMagnitude magnitude := by
  cases value with
  | nan => cases atLeast
  | number negative magnitude =>
      refine ⟨magnitude, negative, rfl, ?_⟩
      rintro rfl
      have place : (0 : Int) ≤ -(magnitude.val : Int) := of_decide_eq_true atLeast
      omega

theorem not_isInfiniteMagnitude {magnitude : Magnitude} (finite : magnitude.IsFinite) :
    isInfiniteMagnitude magnitude = false :=
  beq_eq_false_iff_ne.mpr (Nat.ne_of_lt finite)

namespace HasMagnitude

variable {value left right other : Double}
  {magnitude leftMagnitude rightMagnitude otherMagnitude : Magnitude}

theorem ne_nan (sized : value.HasMagnitude magnitude) : value ≠ .nan := by
  obtain ⟨negative, rfl, -⟩ := sized
  exact fun same => nomatch same

/-- Only zero has a sign. -/
theorem eq_number (sized : value.HasMagnitude magnitude) (positive : 0 < magnitude.val) :
    value = number false magnitude := by
  obtain ⟨negative, rfl, unsigned⟩ := sized
  cases negative with
  | false => rfl
  | true => exact absurd (unsigned rfl) (Nat.ne_of_gt positive)

theorem isFinite_iff (sized : value.HasMagnitude magnitude) :
    value.isFinite = true ↔ magnitude.IsFinite := by
  obtain ⟨negative, rfl, -⟩ := sized
  simp [isFinite, Magnitude.IsFinite]

theorem le_iff (sized : left.HasMagnitude leftMagnitude)
    (otherSized : right.HasMagnitude rightMagnitude) :
    left.le right = true ↔ leftMagnitude.val ≤ rightMagnitude.val := by
  obtain ⟨leftSign, rfl, leftUnsigned⟩ := sized
  obtain ⟨rightSign, rfl, rightUnsigned⟩ := otherSized
  simp [le, rank_of_sign leftUnsigned, rank_of_sign rightUnsigned]

theorem ofNat (count : Nat) :
    (Double.ofNat count).HasMagnitude
      (Magnitude.ofQuotient (count * unitsPerOne) 1) :=
  ⟨false, rfl, fun signed => nomatch signed⟩

theorem mul (sized : left.HasMagnitude leftMagnitude)
    (otherSized : right.HasMagnitude rightMagnitude)
    (finite : leftMagnitude.IsFinite) (otherFinite : rightMagnitude.IsFinite) :
    (left * right).HasMagnitude
      (Magnitude.ofQuotient (leftMagnitude.units * rightMagnitude.units)
        unitsPerOne) := by
  obtain ⟨leftSign, rfl, leftUnsigned⟩ := sized
  obtain ⟨rightSign, rfl, rightUnsigned⟩ := otherSized
  refine ⟨leftSign != rightSign, ?_, ?_⟩
  · change Double.mul _ _ = _
    simp only [Double.mul, not_isInfiniteMagnitude finite, not_isInfiniteMagnitude otherFinite,
      Bool.or_self, Bool.false_eq_true, if_false]
  · intro signed
    have zeroFactor : leftMagnitude.units = 0 ∨ rightMagnitude.units = 0 := by
      cases leftSign with
      | true => exact .inl (Magnitude.zero_units_of_val (leftUnsigned rfl))
      | false =>
          cases rightSign with
          | true => exact .inr (Magnitude.zero_units_of_val (rightUnsigned rfl))
          | false => cases signed
    rw [Nat.mul_eq_zero.mpr zeroFactor]
    exact Magnitude.ofQuotient_zero _

theorem div (sized : left.HasMagnitude leftMagnitude)
    (otherSized : right.HasMagnitude rightMagnitude)
    (finite : leftMagnitude.IsFinite) (otherFinite : rightMagnitude.IsFinite)
    (divisor : rightMagnitude.val ≠ 0) :
    (left / right).HasMagnitude
      (Magnitude.ofQuotient (leftMagnitude.units * unitsPerOne)
        rightMagnitude.units) := by
  obtain ⟨leftSign, rfl, leftUnsigned⟩ := sized
  obtain ⟨rightSign, rfl, rightUnsigned⟩ := otherSized
  have noZero : (rightMagnitude.val == 0) = false := beq_eq_false_iff_ne.mpr divisor
  refine ⟨leftSign != rightSign, ?_, ?_⟩
  · change Double.div _ _ = _
    simp only [Double.div, not_isInfiniteMagnitude finite, not_isInfiniteMagnitude otherFinite,
      noZero, Bool.false_eq_true, if_false]
  · intro signed
    have positive : rightSign = false := by
      cases rightSign with
      | false => rfl
      | true => exact absurd (rightUnsigned rfl) divisor
    subst positive
    have zeroDividend : leftMagnitude.units = 0 := by
      cases leftSign with
      | true => exact Magnitude.zero_units_of_val (leftUnsigned rfl)
      | false => cases signed
    rw [zeroDividend, Nat.zero_mul]
    exact Magnitude.ofQuotient_zero _

theorem add (sized : left.HasMagnitude leftMagnitude)
    (otherSized : right.HasMagnitude rightMagnitude) :
    (left + right).HasMagnitude (leftMagnitude.sum rightMagnitude) := by
  obtain ⟨leftSign, rfl, leftUnsigned⟩ := sized
  obtain ⟨rightSign, rfl, rightUnsigned⟩ := otherSized
  have infinitePositive {negative : Bool} {magnitude : Magnitude}
      (unsigned : negative = true → magnitude.val = 0)
      (infinite : magnitude.val = infiniteOrdinal) :
      negative = false ∧ magnitude = Magnitude.infinite := by
    refine ⟨?_, Fin.ext infinite⟩
    cases negative with
    | false => rfl
    | true =>
        rw [unsigned rfl] at infinite
        exact absurd infinite (by decide)
  change (Double.add _ _).HasMagnitude _
  unfold Double.add Magnitude.sum isInfiniteMagnitude
  by_cases leftInfinite : leftMagnitude.val = infiniteOrdinal
  · obtain ⟨rfl, rfl⟩ := infinitePositive leftUnsigned leftInfinite
    by_cases rightInfinite : rightMagnitude.val = infiniteOrdinal
    · obtain ⟨rfl, rfl⟩ := infinitePositive rightUnsigned rightInfinite
      exact ⟨false, rfl, fun signed => nomatch signed⟩
    · exact ⟨false, by simp [leftInfinite, rightInfinite], fun signed => nomatch signed⟩
  · by_cases rightInfinite : rightMagnitude.val = infiniteOrdinal
    · obtain ⟨rfl, rfl⟩ := infinitePositive rightUnsigned rightInfinite
      exact ⟨false, by simp [leftInfinite, rightInfinite], fun signed => nomatch signed⟩
    · have finite : ¬ (leftMagnitude.val = infiniteOrdinal ∨
          rightMagnitude.val = infiniteOrdinal) := by
        rintro (infinite | infinite)
        · exact leftInfinite infinite
        · exact rightInfinite infinite
      rw [if_neg finite]
      simp only [beq_eq_false_iff_ne.mpr leftInfinite,
        beq_eq_false_iff_ne.mpr rightInfinite, Bool.false_eq_true, if_false,
        signedUnits_of_sign leftUnsigned, signedUnits_of_sign rightUnsigned]
      split
      · rename_i nothing
        have noUnits : leftMagnitude.units + rightMagnitude.units = 0 := by omega
        have same : Magnitude.ofQuotient
            (leftMagnitude.units + rightMagnitude.units) 1 = Magnitude.zero := by
          apply Fin.ext
          rw [noUnits, Magnitude.ofQuotient_zero]
          rfl
        rw [same]
        exact ⟨leftSign && rightSign, rfl, fun _ => rfl⟩
      · have unsigned : ¬ ((leftMagnitude.units : Int) + rightMagnitude.units < 0) := by
          omega
        refine ⟨false, ?_, fun signed => nomatch signed⟩
        simp only [unsigned, decide_false, number.injEq, true_and]
        rfl

end HasMagnitude

end Double

end NodeAdmin
