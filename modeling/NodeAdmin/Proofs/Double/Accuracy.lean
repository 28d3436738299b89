import Mathlib.Tactic.Linarith
import NodeAdmin.Proofs.Double.Nonnegative

/-!
# How far rounding goes

A quotient that is not below all binades loses or gains at most one part in `2 ^ 53` when it is
rounded, and a smaller one loses at most half of the smallest positive double.  What lies on the
grid of its binade loses nothing.
-/

namespace NodeAdmin

theorem roundQuotient_error (numerator : Nat) {denominator : Nat} (positive : 0 < denominator) :
    2 * numerator ≤ (2 * roundQuotient numerator denominator + 1) * denominator := by
  have whole := Nat.div_add_mod numerator denominator
  have small := Nat.mod_lt numerator positive
  unfold roundQuotient
  dsimp only
  generalize numerator / denominator = quotient at *
  generalize numerator % denominator = remainder at *
  subst whole
  split
  · linarith
  · split
    · linarith
    · have atLeast : quotient * denominator ≤ (quotient + quotient % 2) * denominator :=
        Nat.mul_le_mul_right _ (Nat.le_add_right _ _)
      linarith

theorem roundQuotient_excess (numerator : Nat) {denominator : Nat} (positive : 0 < denominator) :
    2 * (roundQuotient numerator denominator * denominator) ≤ 2 * numerator + denominator := by
  have whole := Nat.div_add_mod numerator denominator
  have small := Nat.mod_lt numerator positive
  unfold roundQuotient
  dsimp only
  generalize numerator / denominator = quotient at *
  generalize numerator % denominator = remainder at *
  subst whole
  split
  · linarith
  · split
    · linarith
    · have atMost : (quotient + quotient % 2) * denominator ≤ (quotient + 1) * denominator :=
        Nat.mul_le_mul_right _ (by omega)
      linarith

namespace Magnitude

/-- Within a binade a place is worth its number of spacings, up to the first of the next. -/
theorem unitsOf_spacings {binade place : Nat} (normal : binade = 0 ∨ binadeSize ≤ place)
    (inside : place ≤ 2 * binadeSize) :
    unitsOf (binade * binadeSize + place) = place * Nat.pow 2 binade := by
  have size : 0 < binadeSize := by decide
  by_cases low : place < binadeSize
  · obtain rfl := normal.resolve_right (Nat.not_le.mpr low)
    rw [Nat.zero_mul, Nat.zero_add, unitsOf_of_lt low]
    exact (Nat.mul_one place).symm
  · obtain ⟨further, rfl⟩ := Nat.exists_eq_add_of_le (Nat.not_lt.mp low)
    by_cases last : further < binadeSize
    · have split : binade * binadeSize + (binadeSize + further) =
          (binade + 1) * binadeSize + further := by ring
      rw [split, unitsOf_binade binade last]
    · have full : further = binadeSize := by omega
      have next : binade * binadeSize + (binadeSize + further) =
          (binade + 1 + 1) * binadeSize + 0 := by
        rw [full]
        ring
      rw [next, unitsOf_binade (binade + 1) size, full]
      change (binadeSize + 0) * 2 ^ (binade + 1) = (binadeSize + binadeSize) * 2 ^ binade
      ring

variable {numerator denominator : Nat}

/-- A finite rounded quotient is a number of spacings of the binade of the quotient. -/
theorem units_ofQuotient (positive : 0 < denominator)
    (finite : (ofQuotient numerator denominator).IsFinite) :
    (ofQuotient numerator denominator).units =
      roundQuotient numerator
        (denominator * Nat.pow 2 (binadeOf (numerator / denominator))) *
        Nat.pow 2 (binadeOf (numerator / denominator)) := by
  have place : (ofQuotient numerator denominator).val = nearestOrdinal numerator denominator := by
    unfold IsFinite at finite
    rw [ofQuotient_val] at finite ⊢
    omega
  rw [units, place]
  apply unitsOf_spacings
  · rcases Nat.eq_zero_or_pos (binadeOf (numerator / denominator)) with lowest | higher
    · exact .inl lowest
    · right
      apply le_roundQuotient (Nat.mul_pos positive (Nat.pow_pos (by decide)))
      have atLeast := (Nat.le_div_iff_mul_le positive).mp (binadeOf_le higher)
      rwa [Nat.mul_assoc, Nat.mul_comm (Nat.pow 2 _)] at atLeast
  · apply roundQuotient_le
    have below := (Nat.div_lt_iff_lt_mul positive).mp (lt_binadeOf (numerator / denominator))
    rwa [Nat.mul_assoc, Nat.mul_comm (Nat.pow 2 _)] at below

theorem le_units_ofQuotient (positive : 0 < denominator)
    (finite : (ofQuotient numerator denominator).IsFinite) :
    2 * numerator ≤ 2 * (denominator * (ofQuotient numerator denominator).units) +
      denominator * Nat.pow 2 (binadeOf (numerator / denominator)) := by
  rw [units_ofQuotient positive finite]
  have spacing : 0 < Nat.pow 2 (binadeOf (numerator / denominator)) := Nat.pow_pos (by decide)
  generalize Nat.pow 2 (binadeOf (numerator / denominator)) = spacing at *
  have error := roundQuotient_error numerator (Nat.mul_pos positive spacing)
  linarith

theorem units_ofQuotient_le (positive : 0 < denominator)
    (finite : (ofQuotient numerator denominator).IsFinite) :
    2 * (denominator * (ofQuotient numerator denominator).units) ≤
      2 * numerator + denominator * Nat.pow 2 (binadeOf (numerator / denominator)) := by
  rw [units_ofQuotient positive finite]
  have spacing : 0 < Nat.pow 2 (binadeOf (numerator / denominator)) := Nat.pow_pos (by decide)
  generalize Nat.pow 2 (binadeOf (numerator / denominator)) = spacing at *
  have excess := roundQuotient_excess numerator (Nat.mul_pos positive spacing)
  linarith

/-- A quotient that is not below all binades fills its own. -/
theorem filled_binade (positive : 0 < denominator)
    (normal : binadeSize * denominator ≤ numerator) :
    binadeSize * Nat.pow 2 (binadeOf (numerator / denominator)) * denominator ≤ numerator := by
  rw [← Nat.le_div_iff_mul_le positive]
  rcases Nat.eq_zero_or_pos (binadeOf (numerator / denominator)) with lowest | higher
  · rw [lowest]
    exact (Nat.le_div_iff_mul_le positive).mpr normal
  · exact binadeOf_le higher

/-- A quotient that fills a binade loses at most one part in `2 ^ 53`. -/
theorem relative_accuracy (positive : 0 < denominator)
    (finite : (ofQuotient numerator denominator).IsFinite)
    (normal : binadeSize * denominator ≤ numerator) :
    numerator * (2 * binadeSize - 1) ≤
      2 * binadeSize * (denominator * (ofQuotient numerator denominator).units) := by
  have accuracy := le_units_ofQuotient positive finite
  have filled := filled_binade positive normal
  generalize Nat.pow 2 (binadeOf (numerator / denominator)) = spacing at *
  rw [Nat.mul_sub_one]
  have scaled := Nat.mul_le_mul_left binadeSize accuracy
  have total : numerator ≤ numerator * (2 * binadeSize) :=
    Nat.le_mul_of_pos_right _ (by decide)
  linarith [Nat.sub_add_cancel total]

/-- A quotient that fills a binade gains at most one part in `2 ^ 53`. -/
theorem relative_excess (positive : 0 < denominator)
    (finite : (ofQuotient numerator denominator).IsFinite)
    (normal : binadeSize * denominator ≤ numerator) :
    2 * binadeSize * (denominator * (ofQuotient numerator denominator).units) ≤
      numerator * (2 * binadeSize + 1) := by
  have excess := units_ofQuotient_le positive finite
  have filled := filled_binade positive normal
  generalize Nat.pow 2 (binadeOf (numerator / denominator)) = spacing at *
  have scaled := Nat.mul_le_mul_left binadeSize excess
  linarith

/-- A quotient below all binades loses at most half of the smallest positive double. -/
theorem absolute_accuracy (positive : 0 < denominator)
    (finite : (ofQuotient numerator denominator).IsFinite)
    (low : numerator < 2 * binadeSize * denominator) :
    2 * numerator ≤ (2 * (ofQuotient numerator denominator).units + 1) * denominator := by
  have accuracy := le_units_ofQuotient positive finite
  rw [binadeOf_of_lt ((Nat.div_lt_iff_lt_mul positive).mpr low)] at accuracy
  change _ ≤ _ + denominator * 1 at accuracy
  linarith

/-- A whole number of smallest doubles is kept or loses at most one part in `2 ^ 53`. -/
theorem whole_accuracy {whole : Nat} (finite : (ofQuotient whole 1).IsFinite) :
    whole * (2 * binadeSize - 1) ≤ 2 * binadeSize * (ofQuotient whole 1).units := by
  rcases Nat.lt_or_ge whole (binadeSize * 1) with low | normal
  · have accuracy := absolute_accuracy Nat.one_pos finite (by omega)
    have kept : whole ≤ (ofQuotient whole 1).units := by omega
    calc
      whole * (2 * binadeSize - 1) ≤ (ofQuotient whole 1).units * (2 * binadeSize) :=
        Nat.mul_le_mul kept (Nat.sub_le _ _)
      _ = _ := Nat.mul_comm _ _
  · have accuracy := relative_accuracy Nat.one_pos finite normal
    rwa [Nat.one_mul] at accuracy

/-- A quotient on the grid of its binade is kept. -/
theorem units_of_dvd (positive : 0 < denominator)
    (finite : (ofQuotient numerator denominator).IsFinite)
    (onGrid : denominator * Nat.pow 2 (binadeOf (numerator / denominator)) ∣ numerator) :
    denominator * (ofQuotient numerator denominator).units = numerator := by
  rw [units_ofQuotient positive finite]
  have spacing : 0 < denominator * Nat.pow 2 (binadeOf (numerator / denominator)) :=
    Nat.mul_pos positive (Nat.pow_pos (by decide))
  generalize Nat.pow 2 (binadeOf (numerator / denominator)) = step at *
  obtain ⟨count, rfl⟩ := onGrid
  have rounded := roundQuotient_mul count spacing
  rw [Nat.mul_comm _ count, rounded]
  ring

theorem ofQuotient_scale (numerator denominator : Nat) {factor : Nat} (positive : 0 < factor) :
    ofQuotient (numerator * factor) (denominator * factor) = ofQuotient numerator denominator := by
  have quotient : numerator * factor / (denominator * factor) = numerator / denominator :=
    Nat.mul_div_mul_right _ _ positive
  have rounded (spacing : Nat) :
      roundQuotient (numerator * factor) (denominator * factor * spacing) =
        roundQuotient numerator (denominator * spacing) := by
    rw [Nat.mul_right_comm]
    unfold roundQuotient
    rw [Nat.mul_div_mul_right _ _ positive, Nat.mul_mod_mul_right]
    dsimp only
    rw [← Nat.mul_assoc 2]
    simp only [Nat.mul_lt_mul_right positive]
  apply Fin.ext
  rw [ofQuotient_val, ofQuotient_val, nearestOrdinal, nearestOrdinal, quotient, rounded]

theorem ofQuotient_mul_self (numerator : Nat) {factor : Nat} (positive : 0 < factor) :
    ofQuotient (numerator * factor) factor = ofQuotient numerator 1 := by
  have scaled := ofQuotient_scale numerator 1 positive
  rwa [Nat.one_mul] at scaled

end Magnitude

end NodeAdmin
