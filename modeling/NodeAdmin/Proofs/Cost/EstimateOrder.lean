import NodeAdmin.Proofs.Cost.Estimate

/-!
# The order of estimates

A floor that is no lower and prices that are no higher never need fewer tokens.  Products,
quotients and the counts that quotients are rounded up to keep the order, and what is too large
for a double or for a count stays the largest of them.  Half of a floor never needs more tokens
than the whole.
-/

namespace NodeAdmin

open Double (saturated unitsPerOne)

/-! ## Quotients and counts -/

namespace Magnitude

/-- A larger quotient is not rounded to a smaller magnitude, also if its divisor is another. -/
theorem ofQuotient_le_ofQuotient {numerator denominator other divisor : Nat}
    (positive : 0 < denominator) (divisorPositive : 0 < divisor)
    (atMost : numerator * divisor ≤ other * denominator) :
    (ofQuotient numerator denominator).val ≤ (ofQuotient other divisor).val := by
  rw [← ofQuotient_scale numerator denominator divisorPositive,
    ← ofQuotient_scale other divisor positive, Nat.mul_comm divisor]
  exact ofQuotient_mono (Nat.mul_pos positive divisorPositive) atMost

/-- The quotient of a magnitude and a finite one other than zero. -/
def quotient (dividend divisor : Magnitude) : Magnitude :=
  if dividend.val = infiniteOrdinal then infinite
  else ofQuotient (dividend.units * unitsPerOne) divisor.units

theorem quotient_mono {dividend other divisor lower : Magnitude}
    (dividends : dividend.val ≤ other.val) (positive : 0 < lower.val)
    (divisors : lower.val ≤ divisor.val) :
    (quotient dividend divisor).val ≤ (quotient other lower).val := by
  unfold quotient
  by_cases infiniteOther : other.val = infiniteOrdinal
  · rw [if_pos infiniteOther]
    exact val_le_infinite _
  · have finite : dividend.val ≠ infiniteOrdinal := by
      have bound := Nat.le_of_lt_succ other.isLt
      omega
    rw [if_neg infiniteOther, if_neg finite]
    apply ofQuotient_le_ofQuotient (unitsOf_pos (Nat.lt_of_lt_of_le positive divisors))
      (unitsOf_pos positive)
    exact Nat.mul_le_mul (Nat.mul_le_mul_right _ (units_mono dividends)) (units_mono divisors)

theorem quotient_two_le (magnitude : Magnitude) :
    (quotient magnitude (ofCount 2)).val ≤ magnitude.val := by
  unfold quotient
  by_cases isInfinite : magnitude.val = infiniteOrdinal
  · rw [if_pos isInfinite, isInfinite]
    exact Nat.le_refl _
  · rw [if_neg isInfinite]
    exact half_le magnitude

theorem perMillion_mono {floor other : Magnitude} (atMost : floor.val ≤ other.val) :
    floor.perMillion.val ≤ other.perMillion.val :=
  ofQuotient_mono Double.unitsPerOne_pos (Nat.mul_le_mul_right _ (units_mono atMost))

/-- The whole number that a magnitude is rounded up to, cut off at the largest count. -/
def countUp (magnitude : Magnitude) : Nat :=
  min saturated.toNat ((magnitude.units + (unitsPerOne - 1)) / unitsPerOne)

theorem countUp_mono {magnitude other : Magnitude} (atMost : magnitude.val ≤ other.val) :
    magnitude.countUp ≤ other.countUp := by
  have wholes : (magnitude.units + (unitsPerOne - 1)) / unitsPerOne ≤
      (other.units + (unitsPerOne - 1)) / unitsPerOne :=
    Nat.div_le_div_right (Nat.add_le_add_right (units_mono atMost) _)
  unfold countUp
  omega

theorem countUp_whole {magnitude : Magnitude} (noFraction : magnitude.units % unitsPerOne = 0) :
    magnitude.countUp = min saturated.toNat (magnitude.units / unitsPerOne) := by
  have positive := Double.unitsPerOne_pos
  have whole := Nat.div_mul_cancel (Nat.dvd_of_mod_eq_zero noFraction)
  unfold countUp
  generalize unitsPerOne = unit at *
  congr 1
  rw [← whole, Nat.mul_comm, Nat.mul_add_div positive, Nat.mul_div_cancel_left _ positive,
    Nat.div_eq_of_lt (Nat.sub_lt positive Nat.one_pos), Nat.add_zero]

theorem countUp_fraction {magnitude : Magnitude}
    (fraction : magnitude.units % unitsPerOne ≠ 0) :
    magnitude.countUp = min saturated.toNat (magnitude.units / unitsPerOne + 1) := by
  have positive := Double.unitsPerOne_pos
  have whole := Nat.div_add_mod magnitude.units unitsPerOne
  have small := Nat.mod_lt magnitude.units positive
  unfold countUp
  generalize unitsPerOne = unit at *
  congr 1
  have beyond : magnitude.units + (unit - 1) =
      unit * (magnitude.units / unit + 1) + (magnitude.units % unit - 1) := by
    rw [Nat.mul_add_one]
    omega
  have rest : (magnitude.units % unit - 1) / unit = 0 := Nat.div_eq_of_lt (by omega)
  rw [beyond, Nat.mul_add_div positive, rest, Nat.add_zero]

end Magnitude

namespace Double.HasMagnitude

variable {value left right : Double} {magnitude leftMagnitude rightMagnitude : Magnitude}

theorem isPositive_iff (sized : value.HasMagnitude magnitude) :
    value.isPositive = true ↔ 0 < magnitude.val := by
  obtain ⟨negative, rfl, unsigned⟩ := sized
  have zeroRank : rank false Magnitude.zero = 0 := rfl
  simp only [isPositive, zero, lt, rank_of_sign unsigned, zeroRank, decide_eq_true_eq]
  exact Int.natCast_pos

theorem quotient (sized : left.HasMagnitude leftMagnitude)
    (divisorSized : right.HasMagnitude rightMagnitude) (finite : rightMagnitude.IsFinite)
    (positive : 0 < rightMagnitude.val) :
    (left / right).HasMagnitude (leftMagnitude.quotient rightMagnitude) := by
  by_cases leftFinite : leftMagnitude.IsFinite
  · rw [Magnitude.quotient, if_neg (Nat.ne_of_lt leftFinite)]
    exact sized.div divisorSized leftFinite finite (Nat.ne_of_gt positive)
  · obtain rfl := Magnitude.eq_infinite leftFinite
    rw [infinite_div sized divisorSized finite positive]
    exact ⟨false, rfl, nofun⟩

theorem half (sized : value.HasMagnitude magnitude) :
    (value / .ofNat 2).HasMagnitude (magnitude.quotient (.ofCount 2)) :=
  sized.quotient two_hasMagnitude.1 two_hasMagnitude.2.1
    (Nat.pos_of_ne_zero two_hasMagnitude.2.2)

theorem perMillion (sized : value.HasMagnitude magnitude) :
    (value * tokensPerMillion).HasMagnitude magnitude.perMillion := by
  by_cases finite : magnitude.IsFinite
  · exact sized.mul million_hasMagnitude.1 finite million_hasMagnitude.2
  · obtain rfl := Magnitude.eq_infinite finite
    have product : infinity * tokensPerMillion =
        number false (Magnitude.perMillion Magnitude.infinite) := by decide +kernel
    rw [sized.eq_number (by decide)]
    exact ⟨false, product, nofun⟩

/-- Rounding up and cutting off is the same for all doubles that are at least zero. -/
theorem countUp (sized : value.HasMagnitude magnitude) :
    value.ceil.toUInt64.toNat = magnitude.countUp := by
  by_cases finite : magnitude.IsFinite
  · obtain ⟨negative, rfl, unsigned⟩ := sized
    cases negative with
    | true =>
        obtain rfl : magnitude = Magnitude.zero := Fin.ext (unsigned rfl)
        decide +kernel
    | false =>
        by_cases fraction : magnitude.units % unitsPerOne = 0
        · have whole := Nat.div_mul_cancel (Nat.dvd_of_mod_eq_zero fraction)
          rw [ceil_whole finite fraction, toNat_toUInt64 finite whole.symm,
            Magnitude.countUp_whole fraction]
        · have small : magnitude.units / unitsPerOne + 1 < 2 * Magnitude.binadeSize := by
            have below := Magnitude.units_lt_of_fraction fraction
            have quotient := (Nat.div_lt_iff_lt_mul unitsPerOne_pos).mpr below
            have size : 1 < Magnitude.binadeSize := by decide
            omega
          rw [ceil_number finite fraction,
            toNat_toUInt64 (Magnitude.ofCount_finite_of_lt small) (Magnitude.ofCount_units small),
            Magnitude.countUp_fraction fraction]
  · obtain rfl := Magnitude.eq_infinite finite
    rw [sized.eq_number (by decide)]
    decide +kernel

end Double.HasMagnitude

/-! ## Tokens for a cost -/

/-- Whether a positive price is at most a finite one. -/
structure Double.Undercuts (price other : Double) : Prop where
  positive : price.isPositive = true
  atMost : price.le other = true
  finite : other.isFinite = true

section

variable {cost otherCost price otherPrice : Double} {floor otherFloor priced : Magnitude}

theorem tokensForCost_toNat (sized : cost.HasMagnitude floor)
    (priceSized : price.HasMagnitude priced) (finite : priced.IsFinite)
    (positive : 0 < priced.val) :
    (tokensForCost cost price).toNat = (floor.perMillion.quotient priced).countUp := by
  rw [tokensForCost, if_pos (priceSized.isPositive_iff.mpr positive)]
  exact (sized.perMillion.quotient priceSized finite positive).countUp

theorem tokensForCost_mono (sized : cost.HasMagnitude floor)
    (otherSized : otherCost.HasMagnitude otherFloor) (floors : floor.val ≤ otherFloor.val)
    (undercuts : otherPrice.Undercuts price) :
    tokensForCost cost price ≤ tokensForCost otherCost otherPrice := by
  have atLeast := Double.le_of_lt undercuts.positive
  obtain ⟨otherPriced, otherPriceSized⟩ := Double.hasMagnitude_of_zero_le atLeast
  obtain ⟨priced, priceSized⟩ :=
    Double.hasMagnitude_of_zero_le (Double.le_trans atLeast undercuts.atMost)
  have prices := (otherPriceSized.le_iff priceSized).mp undercuts.atMost
  have otherPositive := otherPriceSized.isPositive_iff.mp undercuts.positive
  have positive := Nat.lt_of_lt_of_le otherPositive prices
  have finite := priceSized.isFinite_iff.mp undercuts.finite
  have otherFinite : otherPriced.IsFinite := Nat.lt_of_le_of_lt prices finite
  rw [UInt64.le_iff_toNat_le, tokensForCost_toNat sized priceSized finite positive,
    tokensForCost_toNat otherSized otherPriceSized otherFinite otherPositive]
  apply Magnitude.countUp_mono
  exact Magnitude.quotient_mono (Magnitude.perMillion_mono floors) otherPositive prices

/-- At an infinite price no number of tokens is counted. -/
theorem tokensForCost_infinity (sized : cost.HasMagnitude floor) :
    tokensForCost cost .infinity = 0 := by
  have isPositive : Double.infinity.isPositive = true := by decide
  obtain ⟨negative, product, -⟩ := sized.perMillion
  rw [tokensForCost, if_pos isPositive, product]
  change (Double.div _ _).ceil.toUInt64 = 0
  have infinite : Double.isInfiniteMagnitude Magnitude.infinite = true := beq_iff_eq.mpr rfl
  simp only [Double.div, Double.infinity, infinite, if_true]
  split
  · rfl
  · cases negative with
    | true => decide +kernel
    | false => decide +kernel

theorem Double.eq_infinity (positive : price.isPositive = true)
    (notFinite : price.isFinite ≠ true) :
    price = .infinity := by
  obtain ⟨priced, sized⟩ := Double.hasMagnitude_of_zero_le (Double.le_of_lt positive)
  rw [Ne, sized.isFinite_iff] at notFinite
  rw [sized.eq_number (sized.isPositive_iff.mp positive), Magnitude.eq_infinite notFinite]
  rfl

/-- Half of a cost never needs more tokens, whatever the price. -/
theorem tokensForCost_half_le (price : Double) (above : cost.le .zero = false) :
    tokensForCost (cost / .ofNat 2) price ≤ tokensForCost cost price := by
  by_cases notNumber : cost = .nan
  · subst notNumber
    exact UInt64.le_refl _
  have atLeast := Double.le_of_not_le notNumber (by decide) above
  obtain ⟨floor, sized⟩ := Double.hasMagnitude_of_zero_le atLeast
  by_cases positive : price.isPositive = true
  · by_cases finite : price.isFinite = true
    · have itself : price.Undercuts price :=
        ⟨positive, Double.le_refl (Double.numbers_of_lt positive).2, finite⟩
      exact tokensForCost_mono sized.half sized (Magnitude.quotient_two_le floor) itself
    · rw [Double.eq_infinity positive finite, tokensForCost_infinity sized.half]
      exact UInt64.zero_le
  · rw [tokensForCost, tokensForCost, if_neg positive, if_neg positive]
    exact UInt64.le_refl _

end

/-! ## Estimates -/

/-- Whether no count of an estimate is above that of another one. -/
structure MinimumEstimate.AtMost (estimate other : MinimumEstimate) : Prop where
  inputOnly : estimate.inputOnly ≤ other.inputOnly
  outputOnly : estimate.outputOnly ≤ other.outputOnly
  balancedInput : estimate.balancedInput ≤ other.balancedInput
  balancedOutput : estimate.balancedOutput ≤ other.balancedOutput

/-- Whether the counts that reach the floor together are at most those that reach it alone. -/
structure MinimumEstimate.IsBalanced (estimate : MinimumEstimate) : Prop where
  input : estimate.balancedInput ≤ estimate.inputOnly
  output : estimate.balancedOutput ≤ estimate.outputOnly

/-- Whether the floor of a model is at most that of another one, whose prices are no higher. -/
structure Model.HasEasierFloor (model other : Model) : Prop where
  floor : model.minimumCharge.le other.minimumCharge = true
  input : other.inputPrice.Undercuts model.inputPrice
  output : other.outputPrice.Undercuts model.outputPrice

namespace Model

theorem estimate_of_le {model : Model} (below : model.minimumCharge.le Double.zero = true) :
    model.estimate = ⟨0, 0, 0, 0⟩ := by
  simp only [estimate, below, if_true]

/-- The estimates of all models are balanced, whatever their floors and prices. -/
theorem estimate_isBalanced (model : Model) : model.estimate.IsBalanced := by
  cases above : model.minimumCharge.le Double.zero with
  | true =>
      rw [estimate_of_le above]
      exact ⟨UInt64.le_refl _, UInt64.le_refl _⟩
  | false =>
      rw [estimate_of_not_le above]
      exact ⟨tokensForCost_half_le _ above, tokensForCost_half_le _ above⟩

/-- An easier floor never needs more tokens, and half of a floor none more than the whole. -/
theorem estimate_mono {model other : Model} (easier : model.HasEasierFloor other) :
    model.estimate.AtMost other.estimate ∧ model.estimate.IsBalanced ∧
      other.estimate.IsBalanced := by
  refine ⟨?_, model.estimate_isBalanced, other.estimate_isBalanced⟩
  have isNumber := (Double.numbers_of_le easier.floor).1
  cases above : model.minimumCharge.le Double.zero with
  | true =>
      rw [estimate_of_le above]
      exact ⟨UInt64.zero_le, UInt64.zero_le, UInt64.zero_le, UInt64.zero_le⟩
  | false =>
      have atLeast := Double.le_of_not_le isNumber (by decide) above
      have otherAbove : other.minimumCharge.le Double.zero = false := by
        rw [← Bool.not_eq_true]
        intro below
        rw [Double.le_trans easier.floor below] at above
        cases above
      obtain ⟨floor, sized⟩ := Double.hasMagnitude_of_zero_le atLeast
      obtain ⟨otherFloor, otherSized⟩ :=
        Double.hasMagnitude_of_zero_le (Double.le_trans atLeast easier.floor)
      have floors := (sized.le_iff otherSized).mp easier.floor
      have two := Nat.pos_of_ne_zero two_hasMagnitude.2.2
      have halves := Magnitude.quotient_mono floors two (Nat.le_refl _)
      rw [estimate_of_not_le above, estimate_of_not_le otherAbove]
      constructor
      case inputOnly => exact tokensForCost_mono sized otherSized floors easier.input
      case outputOnly => exact tokensForCost_mono sized otherSized floors easier.output
      case balancedInput =>
        exact tokensForCost_mono sized.half otherSized.half halves easier.input
      case balancedOutput =>
        exact tokensForCost_mono sized.half otherSized.half halves easier.output

/-- A model with an infinite floor and the smallest of all input prices. -/
def endlessModel : Model :=
  { Model.ofPrices "endless" (.number false ⟨1, by decide⟩) (.ofNat 10) with
    minimum := some .infinity }

/-- Against an infinite floor all counts are cut off. -/
theorem estimate_mono_endlessModel :
    shortModel.HasEasierFloor endlessModel ∧
      shortModel.estimate = ⟨1200, 300, 600, 150⟩ ∧
      endlessModel.estimate = ⟨saturated, saturated, saturated, saturated⟩ ∧
      shortModel.estimate.AtMost endlessModel.estimate ∧ shortModel.estimate.IsBalanced ∧
      endlessModel.estimate.IsBalanced := by
  have easier : shortModel.HasEasierFloor endlessModel :=
    ⟨by decide +kernel, ⟨by decide +kernel, by decide +kernel, by decide +kernel⟩,
      ⟨by decide +kernel, by decide +kernel, by decide +kernel⟩⟩
  exact ⟨easier, by decide +kernel, by decide +kernel, estimate_mono easier⟩

end Model

end NodeAdmin
