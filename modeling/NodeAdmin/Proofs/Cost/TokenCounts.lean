import NodeAdmin.Proofs.Cost.Recommendation
import NodeAdmin.Proofs.Double.Accuracy

/-!
# Token counts and what they cost

A number of tokens is found by rounding a quotient up, and its cost is a product of rounded
factors.  The cost is short of the amount that the count was made for by one part in `2 ^ 50` at
most, and one more token makes up for the loss as long as doubles tell counts apart.
-/

namespace NodeAdmin

open Double (unitsPerOne)

namespace Magnitude

theorem unitsPerOne_eq_pow : ∃ exponent, unitsPerOne = Nat.pow 2 exponent := by
  unfold unitsPerOne
  generalize 1074 = exponent
  exact ⟨exponent, rfl⟩

theorem eq_infinite {magnitude : Magnitude} (notFinite : ¬ magnitude.IsFinite) :
    magnitude = infinite :=
  Fin.ext (Nat.le_antisymm (val_le_infinite magnitude) (Nat.not_lt.mp notFinite))

theorem units_le_infinite (magnitude : Magnitude) : magnitude.units ≤ infinite.units :=
  units_mono (val_le_infinite magnitude)

theorem exists_tokens {count : Nat} (small : count < 2 * binadeSize) :
    ∃ tokens : UInt64, tokens.toNat = count :=
  ⟨UInt64.ofNat count, UInt64.toNat_ofNat_of_lt' (Nat.lt_trans small (by decide))⟩

theorem ofCount_finite_of_lt {count : Nat} (small : count < 2 * binadeSize) :
    (ofCount count).IsFinite := by
  obtain ⟨tokens, rfl⟩ := exists_tokens small
  exact ofCount_finite tokens

theorem share_finite_of_lt {count : Nat} (small : count < 2 * binadeSize) :
    (share count).IsFinite := by
  obtain ⟨tokens, rfl⟩ := exists_tokens small
  exact share_finite tokens

/-- Counts below `2 ^ 53` are kept. -/
theorem ofCount_units {count : Nat} (small : count < 2 * binadeSize) :
    (ofCount count).units = count * unitsPerOne := by
  obtain ⟨exponent, power⟩ := unitsPerOne_eq_pow
  have lower : binadeOf (count * unitsPerOne / 1) ≤ exponent := by
    by_contra above
    have filled := binadeOf_le (Nat.zero_lt_of_lt (Nat.not_le.mp above))
    have wide : 2 * unitsPerOne ≤ Nat.pow 2 (binadeOf (count * unitsPerOne / 1)) := by
      calc
        2 * unitsPerOne = Nat.pow 2 (exponent + 1) := by
          rw [power]
          exact Nat.pow_succ'.symm
        _ ≤ Nat.pow 2 (binadeOf (count * unitsPerOne / 1)) :=
          Nat.pow_le_pow_right (by decide) (Nat.not_le.mp above)
    have enough := Nat.mul_le_mul_left binadeSize wide
    have below := Nat.mul_lt_mul_of_pos_right small Double.unitsPerOne_pos
    rw [Nat.div_one] at filled enough
    linarith
  have onGrid : 1 * Nat.pow 2 (binadeOf (count * unitsPerOne / 1)) ∣ count * unitsPerOne := by
    rw [Nat.one_mul]
    apply Nat.dvd_mul_left_of_dvd
    rw [power] at lower ⊢
    exact Nat.pow_dvd_pow 2 lower
  have kept := units_of_dvd Nat.one_pos (ofCount_finite_of_lt small) onGrid
  rwa [Nat.one_mul] at kept

/-- A magnitude with a fraction is below `2 ^ 52`. -/
theorem units_lt_of_fraction {magnitude : Magnitude}
    (fraction : magnitude.units % unitsPerOne ≠ 0) :
    magnitude.units < binadeSize * unitsPerOne := by
  rcases Nat.lt_or_ge magnitude.val binadeSize with low | higher
  · rw [units, unitsOf_of_lt low]
    exact Nat.lt_of_lt_of_le low (Nat.le_mul_of_pos_right _ Double.unitsPerOne_pos)
  · obtain ⟨binade, place, inside, ordinal⟩ := exists_binade higher
    rw [units, ordinal, unitsOf_binade binade inside] at fraction ⊢
    obtain ⟨exponent, power⟩ := unitsPerOne_eq_pow
    rw [power] at fraction ⊢
    have lower : binade < exponent := by
      by_contra above
      have divides : Nat.pow 2 exponent ∣ Nat.pow 2 binade :=
        Nat.pow_dvd_pow 2 (Nat.not_lt.mp above)
      exact fraction (Nat.mod_eq_zero_of_dvd (Nat.dvd_mul_left_of_dvd divides _))
    have spacing : 2 * Nat.pow 2 binade ≤ Nat.pow 2 exponent := by
      calc
        2 * Nat.pow 2 binade = Nat.pow 2 (binade + 1) := Nat.pow_succ'.symm
        _ ≤ Nat.pow 2 exponent := Nat.pow_le_pow_right (by decide) lower
    have positive : 0 < Nat.pow 2 binade := Nat.pow_pos (by decide)
    calc
      (binadeSize + place) * Nat.pow 2 binade
        < (binadeSize + binadeSize) * Nat.pow 2 binade :=
          Nat.mul_lt_mul_of_pos_right (Nat.add_lt_add_left inside _) positive
      _ = binadeSize * (2 * Nat.pow 2 binade) := by ring
      _ ≤ binadeSize * Nat.pow 2 exponent := Nat.mul_le_mul_left _ spacing

end Magnitude

/-! ## Rounding up to counts -/

/-- Whether a count is one that a magnitude was rounded up to. -/
structure Magnitude.CountedBy (magnitude : Magnitude) (count : Nat) : Prop where
  finite : magnitude.IsFinite
  reached : magnitude.units ≤ count * unitsPerOne
  kept : (Magnitude.ofCount count).units = count * unitsPerOne

namespace Double

/-- The largest count, which also stands for all larger ones. -/
def saturated : UInt64 := 18446744073709551615

variable {magnitude : Magnitude} {value : Double}

/-- The whole part is cut off at the largest count. -/
theorem toNat_toUInt64 {whole : Nat} (finite : magnitude.IsFinite)
    (units : magnitude.units = whole * unitsPerOne) :
    (number false magnitude).toUInt64.toNat = min saturated.toNat whole := by
  have clamped : (number false magnitude).toUInt64 =
      UInt64.ofNat (min 18446744073709551615 whole) := by
    unfold toUInt64 toIntClamped
    dsimp only
    rw [not_isInfiniteMagnitude finite, units, ← Int.natCast_ediv,
      Nat.mul_div_cancel _ unitsPerOne_pos]
    simp only [Bool.false_eq_true, if_false]
    congr 1
    change (Max.max 0 (min 18446744073709551615 (whole : Int))).toNat = _
    omega
  rw [clamped]
  exact UInt64.toNat_ofNat_of_lt' (Nat.lt_succ_of_le (Nat.min_le_left _ _))

theorem toUInt64_whole {whole : Nat} (finite : magnitude.IsFinite)
    (units : magnitude.units = whole * unitsPerOne)
    (unsaturated : (number false magnitude).toUInt64 ≠ saturated) :
    (number false magnitude).toUInt64.toNat = whole := by
  have cut := toNat_toUInt64 finite units
  have inside : whole < saturated.toNat := by
    by_contra beyond
    rw [Nat.min_eq_left (Nat.not_lt.mp beyond)] at cut
    exact unsaturated (UInt64.toNat_inj.mp cut)
  rw [cut]
  exact Nat.min_eq_right (Nat.le_of_lt inside)

theorem ceil_number (finite : magnitude.IsFinite)
    (fraction : magnitude.units % unitsPerOne ≠ 0) :
    (number false magnitude).ceil =
      number false (Magnitude.ofCount (magnitude.units / unitsPerOne + 1)) := by
  unfold ceil
  dsimp only
  rw [not_isInfiniteMagnitude finite]
  simp only [Bool.false_eq_true, if_false, Bool.false_or, decide_eq_true_eq, if_neg fraction]
  rfl

theorem ceil_whole (finite : magnitude.IsFinite)
    (noFraction : magnitude.units % unitsPerOne = 0) :
    (number false magnitude).ceil = number false magnitude := by
  have whole := Nat.div_mul_cancel (Nat.dvd_of_mod_eq_zero noFraction)
  unfold ceil
  dsimp only
  rw [not_isInfiniteMagnitude finite]
  simp only [Bool.false_eq_true, if_false, Bool.false_or, decide_eq_true_eq, if_pos noFraction]
  unfold ofWhole ofQuotient
  rw [whole, Magnitude.ofQuotient_units]

theorem countedBy_of_finite (finite : magnitude.IsFinite)
    (unsaturated : (number false magnitude).ceil.toUInt64 ≠ saturated) :
    magnitude.CountedBy (number false magnitude).ceil.toUInt64.toNat := by
  by_cases fraction : magnitude.units % unitsPerOne = 0
  · have whole := Nat.div_mul_cancel (Nat.dvd_of_mod_eq_zero fraction)
    rw [ceil_whole finite fraction] at unsaturated ⊢
    rw [toUInt64_whole finite whole.symm unsaturated]
    refine ⟨finite, Nat.le_of_eq whole.symm, ?_⟩
    rw [Magnitude.ofCount, whole, Magnitude.ofQuotient_units]
  · have small : magnitude.units / unitsPerOne + 1 < 2 * Magnitude.binadeSize := by
      have below := Magnitude.units_lt_of_fraction fraction
      have quotient := (Nat.div_lt_iff_lt_mul unitsPerOne_pos).mpr below
      have size : 1 < Magnitude.binadeSize := by decide
      omega
    have counted := Magnitude.ofCount_units small
    rw [ceil_number finite fraction] at unsaturated ⊢
    rw [toUInt64_whole (Magnitude.ofCount_finite_of_lt small) counted unsaturated]
    refine ⟨finite, ?_, counted⟩
    exact Nat.le_of_lt (Nat.lt_mul_of_div_lt (Nat.lt_succ_self _) unitsPerOne_pos)

theorem HasMagnitude.countedBy (sized : value.HasMagnitude magnitude)
    (unsaturated : value.ceil.toUInt64 ≠ saturated) :
    magnitude.CountedBy value.ceil.toUInt64.toNat := by
  obtain ⟨negative, rfl, unsigned⟩ := sized
  cases negative with
  | true =>
      obtain rfl : magnitude = Magnitude.zero := Fin.ext (unsigned rfl)
      have nothing : (number true Magnitude.zero).ceil.toUInt64.toNat = 0 := by decide +kernel
      have finite : Magnitude.zero.val < infiniteOrdinal := by decide +kernel
      rw [nothing]
      exact ⟨finite, by decide +kernel, by decide +kernel⟩
  | false =>
      by_cases finite : magnitude.IsFinite
      · exact countedBy_of_finite finite unsaturated
      · obtain rfl := Magnitude.eq_infinite finite
        exact absurd (by decide +kernel) unsaturated

end Double

/-! ## What counts cost -/

namespace Magnitude

variable {floor price dividend : Magnitude} {count : Nat}

theorem million_units : (ofCount 1000000).units = 1000000 * unitsPerOne :=
  ofCount_units (by decide)

/-- A floor in prices per million tokens. -/
def perMillion (floor : Magnitude) : Magnitude :=
  ofQuotient (floor.units * (ofCount 1000000).units) unitsPerOne

theorem perMillion_accuracy (finite : floor.perMillion.IsFinite) :
    floor.units * 1000000 * (2 * binadeSize - 1) ≤ 2 * binadeSize * floor.perMillion.units := by
  have same : floor.perMillion = ofQuotient (floor.units * 1000000) 1 := by
    rw [perMillion, million_units, ← Nat.mul_assoc]
    exact ofQuotient_mul_self _ Double.unitsPerOne_pos
  rw [same] at finite ⊢
  exact whole_accuracy finite

/-- The count that a quotient is rounded up to is short of it by one part in `2 ^ 53` at most,
or there is none because the divisor is more than twice as large. -/
theorem CountedBy.accuracy (positive : 0 < price.units)
    (counted : (ofQuotient (dividend.units * unitsPerOne) price.units).CountedBy count) :
    dividend.units * (2 * binadeSize - 1) ≤ 2 * binadeSize * (count * price.units) ∨
      count = 0 ∧ 2 * dividend.units < price.units := by
  have wide : 2 * binadeSize ≤ unitsPerOne := by decide +kernel
  rcases Nat.lt_or_ge (dividend.units * unitsPerOne) (binadeSize * price.units) with low | normal
  · have below : dividend.units * (2 * binadeSize) < binadeSize * price.units :=
      Nat.lt_of_le_of_lt (Nat.mul_le_mul_left _ wide) low
    have half : 2 * dividend.units < price.units := by
      have size : 0 < binadeSize := by decide
      apply Nat.lt_of_mul_lt_mul_left (a := binadeSize)
      linarith
    rcases Nat.eq_zero_or_pos count with none | some
    · exact .inr ⟨none, half⟩
    · left
      have least : price.units ≤ count * price.units := Nat.le_mul_of_pos_left _ some
      calc
        dividend.units * (2 * binadeSize - 1) ≤ count * price.units * (2 * binadeSize) :=
          Nat.mul_le_mul (by omega) (Nat.sub_le _ _)
        _ = _ := Nat.mul_comm _ _
  · left
    have accuracy := relative_accuracy positive counted.finite normal
    have reached := Nat.mul_le_mul_left (2 * binadeSize * price.units) counted.reached
    have positiveUnit := Double.unitsPerOne_pos
    generalize unitsPerOne = unit at *
    have scaled : dividend.units * (2 * binadeSize - 1) * unit ≤
        2 * binadeSize * (count * price.units) * unit := by
      calc
        dividend.units * (2 * binadeSize - 1) * unit
          = dividend.units * unit * (2 * binadeSize - 1) := Nat.mul_right_comm _ _ _
        _ ≤ 2 * binadeSize * price.units *
            (ofQuotient (dividend.units * unit) price.units).units := by
          rw [Nat.mul_assoc (2 * binadeSize)]
          exact accuracy
        _ ≤ 2 * binadeSize * price.units * (count * unit) := reached
        _ = 2 * binadeSize * (count * price.units) * unit := by ring
    exact Nat.le_of_mul_le_mul_right scaled positiveUnit

/-- The share of a million that a count is loses at most one part in `2 ^ 53`. -/
theorem share_accuracy (kept : (ofCount count).units = count * unitsPerOne) (some : 0 < count)
    (finite : (share count).IsFinite) :
    count * unitsPerOne * (2 * binadeSize - 1) ≤
      2 * binadeSize * (1000000 * (share count).units) := by
  have wide : binadeSize * 1000000 ≤ unitsPerOne := by decide +kernel
  have same : share count = ofQuotient (count * unitsPerOne) 1000000 := by
    rw [share, kept, million_units]
    exact ofQuotient_scale _ _ Double.unitsPerOne_pos
  rw [same] at finite ⊢
  apply relative_accuracy (by decide) finite
  exact Nat.le_trans wide (Nat.le_mul_of_pos_left _ some)

/-- Losses of a few roundings in a row, cleared of what the roundings have in common. -/
theorem chain_accuracy {floor count price share unit million whole part : Nat}
    (positive : 0 < million)
    (bought : floor * million * part ^ 2 ≤ whole ^ 2 * (count * price))
    (shared : count * unit * part ≤ whole * (million * share)) :
    floor * unit * part ^ 3 ≤ whole ^ 3 * (share * price) := by
  have scaled : floor * unit * part ^ 3 * million ≤ whole ^ 3 * (share * price) * million := by
    calc
      floor * unit * part ^ 3 * million = floor * million * part ^ 2 * (unit * part) := by ring
      _ ≤ whole ^ 2 * (count * price) * (unit * part) := Nat.mul_le_mul_right _ bought
      _ = whole ^ 2 * price * (count * unit * part) := by ring
      _ ≤ whole ^ 2 * price * (whole * (million * share)) := Nat.mul_le_mul_left _ shared
      _ = whole ^ 3 * (share * price) * million := by ring
  exact Nat.le_of_mul_le_mul_right scaled positive

section Nearly

variable {floor product : Nat}

/-- A product below all binades loses half of a smallest double at most.  The cost is a whole
number of them, so that a floor below `2 ^ 50` of them is reached, one below `2 ^ 51` but for one
of them, and a larger one but for two. -/
theorem nearly_of_low (finite : (ofQuotient product unitsPerOne).IsFinite)
    (chained : floor * unitsPerOne * (2 * binadeSize - 1) ^ 3 ≤ (2 * binadeSize) ^ 3 * product)
    (low : product < binadeSize * unitsPerOne) :
    floor ≤ (ofQuotient product unitsPerOne).units + floor / 1125899906842624 := by
  have positiveUnit := Double.unitsPerOne_pos
  generalize unitsPerOne = unit at *
  have accuracy := absolute_accuracy positiveUnit finite (by linarith)
  generalize (ofQuotient product unit).units = cost at *
  have scaled : 2 * floor * (2 * binadeSize - 1) ^ 3 * unit ≤
      (2 * binadeSize) ^ 3 * (2 * cost + 1) * unit := by
    calc
      2 * floor * (2 * binadeSize - 1) ^ 3 * unit =
          2 * (floor * unit * (2 * binadeSize - 1) ^ 3) := by ring
      _ ≤ 2 * ((2 * binadeSize) ^ 3 * product) := Nat.mul_le_mul_left _ chained
      _ = (2 * binadeSize) ^ 3 * (2 * product) := by ring
      _ ≤ (2 * binadeSize) ^ 3 * ((2 * cost + 1) * unit) := Nat.mul_le_mul_left _ accuracy
      _ = (2 * binadeSize) ^ 3 * (2 * cost + 1) * unit := by ring
  have below : floor * (2 * binadeSize - 1) ^ 3 * unit <
      (2 * binadeSize) ^ 3 * binadeSize * unit := by
    calc
      floor * (2 * binadeSize - 1) ^ 3 * unit = floor * unit * (2 * binadeSize - 1) ^ 3 := by ring
      _ ≤ (2 * binadeSize) ^ 3 * product := chained
      _ < (2 * binadeSize) ^ 3 * (binadeSize * unit) :=
        Nat.mul_lt_mul_of_pos_left low (by decide)
      _ = (2 * binadeSize) ^ 3 * binadeSize * unit := by ring
  have near := Nat.le_of_mul_le_mul_right scaled positiveUnit
  have small := Nat.lt_of_mul_lt_mul_right below
  have size : binadeSize = 4503599627370496 := rfl
  rw [size] at near small
  norm_num at near small
  rcases Nat.lt_or_ge floor 1125899906842624 with least | larger
  · omega
  · rcases Nat.lt_or_ge floor 2251799813685248 with less | largest
    · have portion : floor / 1125899906842624 = 1 := by omega
      omega
    · have portion : 2 ≤ floor / 1125899906842624 := by omega
      omega

theorem nearly_of_normal (finite : (ofQuotient product unitsPerOne).IsFinite)
    (chained : floor * unitsPerOne * (2 * binadeSize - 1) ^ 3 ≤ (2 * binadeSize) ^ 3 * product)
    (normal : binadeSize * unitsPerOne ≤ product) :
    floor ≤ (ofQuotient product unitsPerOne).units + floor / 1125899906842624 := by
  have positiveUnit := Double.unitsPerOne_pos
  generalize unitsPerOne = unit at *
  have accuracy := relative_accuracy positiveUnit finite normal
  generalize (ofQuotient product unit).units = cost at *
  have scaled : floor * (2 * binadeSize - 1) ^ 4 * unit ≤ (2 * binadeSize) ^ 4 * cost * unit := by
    calc
      floor * (2 * binadeSize - 1) ^ 4 * unit =
          floor * unit * (2 * binadeSize - 1) ^ 3 * (2 * binadeSize - 1) := by ring
      _ ≤ (2 * binadeSize) ^ 3 * product * (2 * binadeSize - 1) :=
        Nat.mul_le_mul_right _ chained
      _ = (2 * binadeSize) ^ 3 * (product * (2 * binadeSize - 1)) := by ring
      _ ≤ (2 * binadeSize) ^ 3 * (2 * binadeSize * (unit * cost)) :=
        Nat.mul_le_mul_left _ accuracy
      _ = (2 * binadeSize) ^ 4 * cost * unit := by ring
  have near := Nat.le_of_mul_le_mul_right scaled positiveUnit
  have size : binadeSize = 4503599627370496 := rfl
  rw [size] at near
  norm_num at near
  omega

end Nearly

section Bought

variable {floor : Magnitude}

/-- The floor is what a count buys, but for two roundings. -/
theorem CountedBy.bought (positive : 0 < price.units) (finite : floor.perMillion.IsFinite)
    (counted : (ofQuotient (floor.perMillion.units * unitsPerOne) price.units).CountedBy count)
    (some : 0 < count) :
    floor.units * 1000000 * (2 * binadeSize - 1) ^ 2 ≤
      (2 * binadeSize) ^ 2 * (count * price.units) := by
  have priced := perMillion_accuracy finite
  have rounded := (counted.accuracy positive).resolve_right fun none => by omega
  calc
    floor.units * 1000000 * (2 * binadeSize - 1) ^ 2 =
        floor.units * 1000000 * (2 * binadeSize - 1) * (2 * binadeSize - 1) := by ring
    _ ≤ 2 * binadeSize * floor.perMillion.units * (2 * binadeSize - 1) :=
      Nat.mul_le_mul_right _ priced
    _ = 2 * binadeSize * (floor.perMillion.units * (2 * binadeSize - 1)) :=
      Nat.mul_assoc _ _ _
    _ ≤ 2 * binadeSize * (2 * binadeSize * (count * price.units)) :=
      Nat.mul_le_mul_left _ rounded
    _ = (2 * binadeSize) ^ 2 * (count * price.units) := by ring

/-- One token more buys the floor and what a rounding of its share can lose. -/
theorem CountedBy.bought_succ (positive : 0 < price.units) (finite : floor.perMillion.IsFinite)
    (counted : (ofQuotient (floor.perMillion.units * unitsPerOne) price.units).CountedBy count)
    (small : count < 1125899906842624) :
    2 * binadeSize * (floor.units * 1000000) ≤
      (count + 1) * price.units * (2 * binadeSize - 1) := by
  have priced := perMillion_accuracy finite
  have bounded : count * price.units ≤ 1125899906842624 * price.units :=
    Nat.mul_le_mul_right _ (Nat.le_of_lt small)
  have accuracy := counted.accuracy positive
  have whole : 2 * binadeSize = 9007199254740992 := rfl
  have part : 2 * binadeSize - 1 = 9007199254740991 := rfl
  rw [part, whole] at priced accuracy ⊢
  rw [Nat.add_mul, Nat.one_mul]
  rcases accuracy with rounded | ⟨none, half⟩
  · linarith
  · rw [none, Nat.zero_mul, Nat.zero_add]
    linarith

/-- What a count costs is short of the floor that it was rounded up from by a small part. -/
theorem CountedBy.cost_nearly (positive : 0 < price.units) (tokens : UInt64)
    (finite : floor.perMillion.IsFinite)
    (counted : (ofQuotient (floor.perMillion.units * unitsPerOne) price.units).CountedBy
      tokens.toNat) (some : 0 < tokens.toNat) :
    floor.units ≤ (cost tokens.toNat price).units + floor.units / 1125899906842624 := by
  by_cases costFinite : (cost tokens.toNat price).IsFinite
  · have shared := share_accuracy counted.kept some (share_finite tokens)
    have chained := chain_accuracy (by decide) (counted.bought positive finite some) shared
    rcases Nat.lt_or_ge ((share tokens.toNat).units * price.units) (binadeSize * unitsPerOne)
      with low | normal
    · exact nearly_of_low costFinite chained low
    · exact nearly_of_normal costFinite chained normal
  · rw [eq_infinite costFinite]
    exact Nat.le_add_right_of_le (units_le_infinite floor)

/-- One token more costs the floor, as long as counts tell one token from none. -/
theorem CountedBy.le_cost_succ (positive : 0 < price.units)
    (finite : floor.perMillion.IsFinite)
    (counted : (ofQuotient (floor.perMillion.units * unitsPerOne) price.units).CountedBy count)
    (small : count < 1125899906842624) : floor.val ≤ (cost (count + 1) price).val := by
  have bought := counted.bought_succ positive finite small
  have inside : count + 1 < 2 * binadeSize := Nat.lt_trans (Nat.succ_lt_succ small) (by decide)
  have shared := share_accuracy (ofCount_units inside) (Nat.succ_pos count)
    (share_finite_of_lt inside)
  have product : floor.units * unitsPerOne ≤ (share (count + 1)).units * price.units := by
    generalize unitsPerOne = unit at *
    have scaled : floor.units * unit * (2 * binadeSize * 1000000) ≤
        (share (count + 1)).units * price.units * (2 * binadeSize * 1000000) := by
      calc
        floor.units * unit * (2 * binadeSize * 1000000) =
            2 * binadeSize * (floor.units * 1000000) * unit := by ring
        _ ≤ (count + 1) * price.units * (2 * binadeSize - 1) * unit :=
          Nat.mul_le_mul_right _ bought
        _ = (count + 1) * unit * (2 * binadeSize - 1) * price.units := by ring
        _ ≤ 2 * binadeSize * (1000000 * (share (count + 1)).units) * price.units :=
          Nat.mul_le_mul_right _ shared
        _ = (share (count + 1)).units * price.units * (2 * binadeSize * 1000000) := by ring
    exact Nat.le_of_mul_le_mul_right scaled (by decide)
  have grown := ofQuotient_mono Double.unitsPerOne_pos product
  rwa [ofQuotient_mul_self _ Double.unitsPerOne_pos, ofQuotient_units] at grown

end Bought

/-! ## Halves and sums -/

def half (floor : Magnitude) : Magnitude :=
  ofQuotient (floor.units * unitsPerOne) (ofCount 2).units

theorem half_eq (floor : Magnitude) : floor.half = ofQuotient floor.units 2 := by
  rw [half, ofCount_units (by decide)]
  exact ofQuotient_scale _ _ Double.unitsPerOne_pos

theorem half_le (floor : Magnitude) : floor.half.val ≤ floor.val := by
  have below := ofQuotient_mono Nat.two_pos (Nat.le_mul_of_pos_right floor.units Nat.two_pos)
  rwa [ofQuotient_mul_self _ Nat.two_pos, ofQuotient_units, ← half_eq] at below

theorem half_finite (finite : floor.IsFinite) : floor.half.IsFinite :=
  Nat.lt_of_le_of_lt floor.half_le finite

theorem half_accuracy (finite : floor.IsFinite) :
    floor.units ≤ 2 * floor.half.units + floor.units / 9007199254740992 + 1 := by
  have halfFinite := half_finite finite
  rw [half_eq] at halfFinite ⊢
  have size : binadeSize = 4503599627370496 := rfl
  rcases Nat.lt_or_ge floor.units (binadeSize * 2) with low | normal
  · have accuracy := absolute_accuracy Nat.two_pos halfFinite (by omega)
    omega
  · have accuracy := relative_accuracy Nat.two_pos halfFinite normal
    rw [size] at accuracy
    omega

theorem le_sum_right (left right : Magnitude) : right.val ≤ (sum left right).val := by
  have swapped : sum left right = sum right left := by
    simp only [sum, or_comm, Nat.add_comm]
  rw [swapped]
  exact le_sum right left

theorem sum_accuracy {left right : Magnitude} (finite : (sum left right).IsFinite) :
    (left.units + right.units) * (2 * binadeSize - 1) ≤
      2 * binadeSize * (sum left right).units := by
  unfold sum at finite ⊢
  split at finite
  · exact absurd finite (Nat.lt_irrefl _)
  · rename_i parts
    rw [if_neg parts]
    exact whole_accuracy finite

/-- A floor is nearly the sum of two costs that each are nearly its half. -/
theorem sum_nearly {left right : Magnitude} (finite : floor.IsFinite)
    (lefts : floor.half.units ≤ left.units + floor.half.units / 1125899906842624)
    (rights : floor.half.units ≤ right.units + floor.half.units / 1125899906842624) :
    floor.units ≤ (sum left right).units + floor.units / 562949953421312 + 1 := by
  have halves := half_accuracy finite
  by_cases sumFinite : (sum left right).IsFinite
  · have accuracy := sum_accuracy sumFinite
    have whole : 2 * binadeSize = 9007199254740992 := rfl
    have part : 2 * binadeSize - 1 = 9007199254740991 := rfl
    rw [part, whole] at accuracy
    rcases Nat.eq_zero_or_pos floor.units with nothing | positive
    · rw [nothing]
      exact Nat.zero_le _
    have parts : 2 * floor.half.units * 1125899906842623 ≤
        (left.units + right.units) * 1125899906842624 := by
      have portion := Nat.div_mul_le_self floor.half.units 1125899906842624
      linarith
    have halved :
        floor.units * 9007199254740991 ≤ (2 * floor.half.units + 1) * 9007199254740992 := by
      have portion := Nat.div_mul_le_self floor.units 9007199254740992
      linarith
    have near : floor.units * 4503599627370490 ≤
        ((sum left right).units + 1) * 4503599627370496 := by linarith
    have portion := Nat.lt_mul_div_succ floor.units (show 0 < 562949953421312 by decide)
    by_contra short
    linarith
  · rw [eq_infinite sumFinite]
    have bounded := units_le_infinite floor
    omega

end Magnitude

end NodeAdmin
