import Mathlib.Data.Nat.Log
import Mathlib.Order.Monotone.Basic
import Mathlib.Tactic.Ring
import NodeAdmin.Double.Rounding

/-!
# Rounding keeps the order

A larger quotient is never rounded to a smaller double.  Within a binade the
spacing is fixed and quotients are rounded to natural numbers; a quotient of a
lower binade is rounded to the first magnitude of the next binade at most.
-/

namespace NodeAdmin

/-! ## Quotients -/

theorem roundQuotient_bounds (numerator denominator : Nat) :
    numerator / denominator ≤ roundQuotient numerator denominator ∧
      roundQuotient numerator denominator ≤ numerator / denominator + 1 := by
  unfold roundQuotient
  dsimp only
  split
  · omega
  · split
    · omega
    · omega

theorem roundQuotient_mono {numerator other : Nat} (fewer : numerator ≤ other)
    (denominator : Nat) :
    roundQuotient numerator denominator ≤ roundQuotient other denominator := by
  have quotients : numerator / denominator ≤ other / denominator :=
    Nat.div_le_div_right fewer
  rcases Nat.lt_or_eq_of_le quotients with below | same
  · calc
      roundQuotient numerator denominator ≤ numerator / denominator + 1 :=
        (roundQuotient_bounds numerator denominator).2
      _ ≤ other / denominator := below
      _ ≤ roundQuotient other denominator := (roundQuotient_bounds other denominator).1
  · have remainders : numerator % denominator ≤ other % denominator := by
      have whole := Nat.div_add_mod numerator denominator
      have otherWhole := Nat.div_add_mod other denominator
      rw [← same] at otherWhole
      omega
    unfold roundQuotient
    rw [same]
    dsimp only
    split
    · split
      · exact Nat.le_refl _
      · split
        · exact Nat.le_succ _
        · exact Nat.le_add_right _ _
    · split
      · rw [if_neg (by omega), if_pos (by omega)]
      · split
        · omega
        · split
          · omega
          · exact Nat.le_refl _

theorem roundQuotient_le {numerator denominator limit : Nat}
    (below : numerator < limit * denominator) :
    roundQuotient numerator denominator ≤ limit := by
  have quotient : numerator / denominator < limit := Nat.div_lt_of_lt_mul (by
    rwa [Nat.mul_comm])
  exact Nat.le_trans (roundQuotient_bounds numerator denominator).2 quotient

theorem le_roundQuotient {numerator denominator limit : Nat} (positive : 0 < denominator)
    (atLeast : limit * denominator ≤ numerator) :
    limit ≤ roundQuotient numerator denominator :=
  Nat.le_trans ((Nat.le_div_iff_mul_le positive).mpr atLeast)
    (roundQuotient_bounds numerator denominator).1

namespace Magnitude

/-! ## Binades -/

/-- The number of magnitudes in a binade. -/
def binadeSize : Nat := Nat.pow 2 52

/-- How often the spacing around a quotient is the smallest one doubled. -/
def binadeOf (quotient : Nat) : Nat := Nat.log2 quotient - 52

theorem binadeOf_mono {quotient other : Nat} (fewer : quotient ≤ other) :
    binadeOf quotient ≤ binadeOf other := by
  unfold binadeOf
  rw [Nat.log2_eq_log_two, Nat.log2_eq_log_two]
  exact Nat.sub_le_sub_right (Nat.log_mono_right fewer) 52

/-- A quotient is below twice the size of a binade, counted in the spacing of its
own binade. -/
theorem lt_binadeOf (quotient : Nat) :
    quotient < 2 * binadeSize * Nat.pow 2 (binadeOf quotient) := by
  have wide : Nat.log2 quotient + 1 ≤ 53 + binadeOf quotient := by
    unfold binadeOf
    omega
  calc
    quotient < 2 ^ (Nat.log2 quotient + 1) := Nat.lt_log2_self
    _ ≤ 2 ^ (53 + binadeOf quotient) := Nat.pow_le_pow_right (by decide) wide
    _ = 2 * binadeSize * Nat.pow 2 (binadeOf quotient) := Nat.pow_add 2 53 _

/-- Beyond the lowest binade, a quotient is at least the size of a binade, counted
in the spacing of its own binade. -/
theorem binadeOf_le {quotient : Nat} (higher : 0 < binadeOf quotient) :
    binadeSize * Nat.pow 2 (binadeOf quotient) ≤ quotient := by
  have exponent : 52 + binadeOf quotient = Nat.log2 quotient := by
    unfold binadeOf at higher ⊢
    omega
  have nonzero : quotient ≠ 0 := by
    rintro rfl
    exact absurd higher (by decide)
  calc
    binadeSize * Nat.pow 2 (binadeOf quotient) = 2 ^ (52 + binadeOf quotient) :=
      (Nat.pow_add 2 52 _).symm
    _ = 2 ^ Nat.log2 quotient := by rw [exponent]
    _ ≤ quotient := Nat.log2_self_le nonzero

/-! ## Nearest magnitudes -/

/-- The place of the magnitude nearest to a quotient, if the places went on beyond
the infinite magnitude. -/
def nearestOrdinal (numerator denominator : Nat) : Nat :=
  let binade := binadeOf (numerator / denominator)
  binade * binadeSize + roundQuotient numerator (denominator * Nat.pow 2 binade)

theorem ofQuotient_val (numerator denominator : Nat) :
    (ofQuotient numerator denominator).val =
      min infiniteOrdinal (nearestOrdinal numerator denominator) := rfl

theorem nearestOrdinal_mono {numerator other denominator : Nat}
    (positive : 0 < denominator) (fewer : numerator ≤ other) :
    nearestOrdinal numerator denominator ≤ nearestOrdinal other denominator := by
  have binades := binadeOf_mono (Nat.div_le_div_right fewer : _ ≤ other / denominator)
  unfold nearestOrdinal
  dsimp only
  rcases Nat.lt_or_eq_of_le binades with lower | same
  · have spacing : 0 < denominator * Nat.pow 2 (binadeOf (other / denominator)) :=
      Nat.mul_pos positive (Nat.pow_pos (by decide))
    have beneath : roundQuotient numerator
        (denominator * Nat.pow 2 (binadeOf (numerator / denominator))) ≤
          2 * binadeSize := by
      apply roundQuotient_le
      have below := (Nat.div_lt_iff_lt_mul positive).mp
        (lt_binadeOf (numerator / denominator))
      rwa [Nat.mul_assoc, Nat.mul_comm (Nat.pow 2 _)] at below
    have above : binadeSize ≤ roundQuotient other
        (denominator * Nat.pow 2 (binadeOf (other / denominator))) := by
      apply le_roundQuotient spacing
      have atLeast := (Nat.le_div_iff_mul_le positive).mp
        (binadeOf_le (Nat.zero_lt_of_lt lower))
      rwa [Nat.mul_assoc, Nat.mul_comm (Nat.pow 2 _)] at atLeast
    calc
      binadeOf (numerator / denominator) * binadeSize + roundQuotient numerator
          (denominator * Nat.pow 2 (binadeOf (numerator / denominator)))
        ≤ binadeOf (numerator / denominator) * binadeSize + 2 * binadeSize :=
          Nat.add_le_add_left beneath _
      _ = (binadeOf (numerator / denominator) + 1) * binadeSize + binadeSize := by ring
      _ ≤ binadeOf (other / denominator) * binadeSize + binadeSize :=
          Nat.add_le_add_right (Nat.mul_le_mul_right _ lower) _
      _ ≤ binadeOf (other / denominator) * binadeSize + roundQuotient other
          (denominator * Nat.pow 2 (binadeOf (other / denominator))) :=
          Nat.add_le_add_left above _
  · rw [same]
    exact Nat.add_le_add_left (roundQuotient_mono fewer _) _

theorem ofQuotient_mono {numerator other denominator : Nat} (positive : 0 < denominator)
    (fewer : numerator ≤ other) :
    (ofQuotient numerator denominator).val ≤ (ofQuotient other denominator).val := by
  rw [ofQuotient_val, ofQuotient_val]
  exact Nat.le_min.mpr ⟨Nat.min_le_left _ _,
    Nat.le_trans (Nat.min_le_right _ _) (nearestOrdinal_mono positive fewer)⟩

/-! ## Exact values -/

theorem unitsOf_of_lt {ordinal : Nat} (low : ordinal < binadeSize) :
    unitsOf ordinal = ordinal := by
  have lowest : ordinal < 2 * Nat.pow 2 52 := by
    unfold binadeSize at low
    omega
  rw [unitsOf, if_pos lowest]

/-- Beyond the lowest binade, a magnitude has a place in a binade. -/
theorem exists_binade {ordinal : Nat} (higher : binadeSize ≤ ordinal) :
    ∃ binade place, place < binadeSize ∧ ordinal = (binade + 1) * binadeSize + place := by
  have size : 0 < binadeSize := by decide
  refine ⟨ordinal / binadeSize - 1, ordinal % binadeSize, Nat.mod_lt _ size, ?_⟩
  rw [Nat.sub_add_cancel (Nat.div_pos higher size), Nat.div_add_mod']

/-- The exact value of a magnitude by its binade and its place there. -/
theorem unitsOf_binade (binade : Nat) {place : Nat} (inside : place < binadeSize) :
    unitsOf ((binade + 1) * binadeSize + place) =
      (binadeSize + place) * Nat.pow 2 binade := by
  have size : 0 < binadeSize := by decide
  have quotient : ((binade + 1) * binadeSize + place) / binadeSize = binade + 1 := by
    rw [Nat.mul_comm, Nat.mul_add_div size, Nat.div_eq_of_lt inside, Nat.add_zero]
  have remainder : ((binade + 1) * binadeSize + place) % binadeSize = place := by
    rw [Nat.mul_comm, Nat.mul_add_mod, Nat.mod_eq_of_lt inside]
  change (if (binade + 1) * binadeSize + place < 2 * binadeSize then _ else
    (binadeSize + ((binade + 1) * binadeSize + place) % binadeSize) *
      Nat.pow 2 (((binade + 1) * binadeSize + place) / binadeSize - 1)) = _
  rw [quotient, remainder, Nat.add_sub_cancel]
  split
  · rename_i lowest
    have first : binade = 0 := by
      by_contra higher
      have further : 2 * binadeSize ≤ (binade + 1) * binadeSize :=
        Nat.mul_le_mul_right _ (by omega)
      omega
    subst first
    change 1 * binadeSize + place = (binadeSize + place) * 1
    omega
  · rfl

theorem unitsOf_le_succ (ordinal : Nat) : unitsOf ordinal ≤ unitsOf (ordinal + 1) := by
  have size : 1 < binadeSize := by decide
  by_cases low : ordinal < binadeSize
  · rw [unitsOf_of_lt low]
    by_cases next : ordinal + 1 < binadeSize
    · rw [unitsOf_of_lt next]
      exact Nat.le_succ ordinal
    · have first : ordinal + 1 = (0 + 1) * binadeSize + 0 := by omega
      rw [first, unitsOf_binade 0 (Nat.zero_lt_of_lt size)]
      change ordinal ≤ (binadeSize + 0) * 1
      omega
  · obtain ⟨binade, place, inside, rfl⟩ := exists_binade (Nat.not_lt.mp low)
    rw [unitsOf_binade binade inside]
    by_cases next : place + 1 < binadeSize
    · rw [Nat.add_assoc, unitsOf_binade binade next]
      exact Nat.mul_le_mul_right _ (by omega)
    · have last : (binade + 1) * binadeSize + place + 1 =
          (binade + 1 + 1) * binadeSize + 0 := by
        have full : place + 1 = binadeSize := by omega
        rw [Nat.add_assoc, full]
        ring
      rw [last, unitsOf_binade (binade + 1) (Nat.zero_lt_of_lt size)]
      calc
        (binadeSize + place) * Nat.pow 2 binade
          ≤ (2 * binadeSize) * Nat.pow 2 binade := Nat.mul_le_mul_right _ (by omega)
        _ = (binadeSize + 0) * Nat.pow 2 (binade + 1) := by
          change 2 * binadeSize * 2 ^ binade = (binadeSize + 0) * 2 ^ (binade + 1)
          ring

theorem units_mono {magnitude other : Magnitude} (fewer : magnitude.val ≤ other.val) :
    magnitude.units ≤ other.units :=
  monotone_nat_of_le_succ unitsOf_le_succ fewer

theorem unitsOf_pos {ordinal : Nat} (positive : 0 < ordinal) : 0 < unitsOf ordinal := by
  have size : 1 < binadeSize := by decide
  have first : unitsOf 1 = 1 := unitsOf_of_lt size
  have grows : unitsOf 1 ≤ unitsOf ordinal := monotone_nat_of_le_succ unitsOf_le_succ positive
  omega

/-! ## Rounding exact values -/

theorem roundQuotient_mul (count : Nat) {spacing : Nat} (positive : 0 < spacing) :
    roundQuotient (count * spacing) spacing = count := by
  simp [roundQuotient, Nat.mul_div_cancel _ positive, positive]

theorem binadeOf_of_lt {quotient : Nat} (low : quotient < 2 * binadeSize) :
    binadeOf quotient = 0 := by
  have short : Nat.log2 quotient < 53 := by
    by_cases zero : quotient = 0
    · rw [zero]
      decide
    · exact (Nat.log2_lt zero).mpr low
  unfold binadeOf
  omega

theorem binadeOf_mul {binade place : Nat} (inside : place < binadeSize) :
    binadeOf ((binadeSize + place) * Nat.pow 2 binade) = binade := by
  have spacing : 0 < 2 ^ binade := Nat.two_pow_pos binade
  have log : Nat.log2 ((binadeSize + place) * 2 ^ binade) = 52 + binade := by
    rw [Nat.log2_eq_iff (Nat.ne_of_gt (Nat.mul_pos (Nat.add_pos_left (by decide) place) spacing))]
    constructor
    · rw [Nat.pow_add]
      exact Nat.mul_le_mul_right _ (Nat.le_add_right _ _)
    · rw [Nat.add_right_comm, Nat.pow_add]
      apply Nat.mul_lt_mul_of_pos_right _ spacing
      calc
        binadeSize + place < binadeSize + binadeSize := Nat.add_lt_add_left inside _
        _ = 2 ^ 53 := by decide
  unfold binadeOf
  exact (congrArg (· - 52) log).trans (Nat.add_sub_cancel_left 52 binade)

/-- An exact value is nearest to itself. -/
theorem nearestOrdinal_unitsOf (ordinal : Nat) : nearestOrdinal (unitsOf ordinal) 1 = ordinal := by
  unfold nearestOrdinal
  rw [Nat.div_one]
  by_cases low : ordinal < binadeSize
  · rw [unitsOf_of_lt low, binadeOf_of_lt (by omega)]
    have rounded := roundQuotient_mul ordinal Nat.one_pos
    rw [Nat.mul_one] at rounded
    simpa using rounded
  · obtain ⟨binade, place, inside, rfl⟩ := exists_binade (Nat.not_lt.mp low)
    have spacing : 0 < Nat.pow 2 binade := Nat.pow_pos (by decide)
    have rounded := roundQuotient_mul (binadeSize + place) spacing
    rw [unitsOf_binade binade inside, binadeOf_mul inside]
    dsimp only
    rw [Nat.one_mul, rounded]
    ring

theorem ofQuotient_units (magnitude : Magnitude) : ofQuotient magnitude.units 1 = magnitude := by
  apply Fin.ext
  rw [ofQuotient_val, units, nearestOrdinal_unitsOf]
  exact Nat.min_eq_right (Nat.le_of_lt_succ magnitude.isLt)

end Magnitude

end NodeAdmin
