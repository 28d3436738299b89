import Mathlib.Tactic.NormNum
import NodeAdmin.Cost.Amount
import NodeAdmin.Proofs.Cost.TokenCounts
import NodeAdmin.Proofs.Double.FixedPlaces

/-!
# Shown token counts

A token count is shown in ones, thousands or millions.  The shown quantities keep the order of the
counts and are near them, since what is rounded is the same at the ends of every scale.  The scale
is that of the count before it is rounded, so that the last fifty counts below a million are shown
as a thousand thousands.
-/

namespace NodeAdmin

open Double (unitsPerOne)

theorem Double.HasMagnitude.exactValue {value : Double} {magnitude : Magnitude}
    (sized : value.HasMagnitude magnitude) :
    value.exactValue = (magnitude.units : ℚ) / unitsPerOne := by
  obtain ⟨negative, rfl, unsigned⟩ := sized
  rw [Double.exactValue, signedUnits_of_sign unsigned, Int.cast_natCast]

namespace Amount

/-! ## Scales -/

inductive TokenScale where
  | ones
  | thousands
  | millions
  deriving DecidableEq

namespace TokenScale

/-- What one stands for in a scale. -/
def size : TokenScale → Nat
  | ones => 1
  | thousands => 1000
  | millions => 1000000

/-- The largest scale that a count reaches. -/
def ofCount (count : UInt64) : TokenScale :=
  if 1000000 ≤ count then millions
  else if 1000 ≤ count then thousands
  else ones

theorem size_pos (scale : TokenScale) : 0 < scale.size := by
  cases scale <;> decide

theorem size_le (scale : TokenScale) : scale.size ≤ 1000000 := by
  cases scale <;> decide

theorem size_units (scale : TokenScale) :
    (Magnitude.ofCount scale.size).units = scale.size * unitsPerOne := by
  apply Magnitude.ofCount_units
  exact Nat.lt_of_le_of_lt scale.size_le (by decide)

end TokenScale

/-- A count in a scale. -/
def inScale (scale : TokenScale) (count : UInt64) : Double :=
  Double.ofUInt64 count / Double.ofNat scale.size

/-- The magnitude of a count in a scale. -/
def scaled (scale : TokenScale) (count : Nat) : Magnitude :=
  .ofQuotient (Magnitude.ofCount count).units scale.size

section Scaled

variable {scale : TokenScale}

theorem scaled_mono {fewer more : Nat} (grows : fewer ≤ more) :
    (scaled scale fewer).val ≤ (scaled scale more).val :=
  Magnitude.ofQuotient_mono scale.size_pos (Magnitude.units_mono (Magnitude.ofCount_mono grows))

theorem scaled_finite (scale : TokenScale) (count : UInt64) :
    (scaled scale count.toNat).IsFinite := by
  have largest : (scaled scale UInt64.size).val < infiniteOrdinal := by
    cases scale <;> decide +kernel
  exact Nat.lt_of_le_of_lt (scaled_mono (Nat.le_of_lt count.toNat_lt)) largest

theorem inScale_hasMagnitude (scale : TokenScale) (count : UInt64) :
    (inScale scale count).HasMagnitude (scaled scale count.toNat) := by
  have sizeFinite : (Magnitude.ofCount scale.size).IsFinite :=
    Magnitude.ofCount_finite_of_lt (Nat.lt_of_le_of_lt scale.size_le (by decide))
  have sizeNonzero : (Magnitude.ofCount scale.size).val ≠ 0 := by
    cases scale <;> decide +kernel
  have quotient := (Double.HasMagnitude.ofNat count.toNat).div
    (Double.HasMagnitude.ofNat scale.size) (Magnitude.ofCount_finite count) sizeFinite sizeNonzero
  change (inScale scale count).HasMagnitude (.ofQuotient
    ((Magnitude.ofCount count.toNat).units * unitsPerOne)
    (Magnitude.ofCount scale.size).units) at quotient
  rwa [scale.size_units, Magnitude.ofQuotient_scale _ _ Double.unitsPerOne_pos] at quotient

theorem atPlaces_inScale_mono (scale : TokenScale) {fewer more : UInt64} (grows : fewer ≤ more) :
    (inScale scale fewer).atPlaces 1 ≤ (inScale scale more).atPlaces 1 := by
  apply Double.atPlaces_mono
  rw [(inScale_hasMagnitude scale fewer).le_iff (inScale_hasMagnitude scale more)]
  exact scaled_mono (UInt64.le_iff_toNat_le.mp grows)

/-- Two roundings of a count in a scale move it by less than one part in `2 ^ 50`. -/
theorem scaled_units_near {count : UInt64} (some : 0 < count.toNat)
    (fits : count.toNat ≤ scale.size * 70368744177664) :
    20 * (scale.size * (scaled scale count.toNat).units) ≤
        20 * (count.toNat * unitsPerOne) + scale.size * unitsPerOne ∧
      20 * (count.toNat * unitsPerOne) ≤
        20 * (scale.size * (scaled scale count.toNat).units) + scale.size * unitsPerOne := by
  have size : Magnitude.binadeSize = 4503599627370496 := rfl
  have wide : 2 * Magnitude.binadeSize * 1000000 ≤ unitsPerOne := by decide +kernel
  have least : unitsPerOne ≤ count.toNat * unitsPerOne := Nat.le_mul_of_pos_left _ some
  have bound := Nat.mul_le_mul_right unitsPerOne fits
  have scaleSize := scale.size_le
  have counted := Magnitude.ofCount_finite count
  have filled : Magnitude.binadeSize * 1 ≤ count.toNat * unitsPerOne :=
    Nat.le_trans (by decide +kernel) least
  have countLoss := Magnitude.relative_accuracy Nat.one_pos counted filled
  have countGain := Magnitude.relative_excess Nat.one_pos counted filled
  change _ ≤ 2 * Magnitude.binadeSize * (1 * (Magnitude.ofCount count.toNat).units) at countLoss
  change 2 * Magnitude.binadeSize * (1 * (Magnitude.ofCount count.toNat).units) ≤ _ at countGain
  have normal : Magnitude.binadeSize * scale.size ≤ (Magnitude.ofCount count.toNat).units := by
    rw [size] at countLoss wide ⊢
    omega
  have quotientLoss :=
    Magnitude.relative_accuracy scale.size_pos (scaled_finite scale count) normal
  have quotientGain :=
    Magnitude.relative_excess scale.size_pos (scaled_finite scale count) normal
  change _ ≤ 2 * Magnitude.binadeSize * (scale.size * (scaled scale count.toNat).units)
    at quotientLoss
  change 2 * Magnitude.binadeSize * (scale.size * (scaled scale count.toNat).units) ≤ _
    at quotientGain
  rw [size] at countLoss countGain quotientLoss quotientGain
  rw [Nat.mul_right_comm] at bound
  generalize (Magnitude.ofCount count.toNat).units = countUnits at *
  generalize scale.size * (scaled scale count.toNat).units = quotientUnits at *
  generalize count.toNat * unitsPerOne = exactUnits at *
  generalize scale.size * unitsPerOne = sizeUnits at *
  omega

/-- A count in a scale is less than half a tenth away from the double it is rounded to. -/
theorem abs_exactValue_inScale_sub {count : UInt64} (some : 0 < count.toNat)
    (fits : count.toNat ≤ scale.size * 70368744177664) :
    |(inScale scale count).exactValue * scale.size - count.toNat| ≤ (scale.size : ℚ) / 20 := by
  have positive : (0 : ℚ) < unitsPerOne := Nat.cast_pos.mpr Double.unitsPerOne_pos
  obtain ⟨above, below⟩ := scaled_units_near some fits
  rw [(inScale_hasMagnitude scale count).exactValue]
  generalize (scaled scale count.toNat).units = units at *
  have aboveCast : 20 * ((scale.size : ℚ) * units) ≤
      20 * (count.toNat * unitsPerOne) + scale.size * unitsPerOne := by
    exact_mod_cast above
  have belowCast : 20 * ((count.toNat : ℚ) * unitsPerOne) ≤
      20 * (scale.size * units) + scale.size * unitsPerOne := by
    exact_mod_cast below
  generalize (unitsPerOne : ℚ) = one at *
  have apart : (units : ℚ) / one * scale.size - count.toNat =
      (scale.size * units - count.toNat * one) / one := by
    field_simp
  rw [apart, abs_div, abs_of_pos positive, div_le_iff₀ positive, abs_le]
  constructor <;> linarith

theorem abs_atPlaces_inScale_sub {count : UInt64} (some : 0 < count.toNat)
    (fits : count.toNat ≤ scale.size * 70368744177664) :
    |(inScale scale count).atPlaces 1 * scale.size - count.toNat| ≤ (scale.size : ℚ) / 10 := by
  have size : (0 : ℚ) ≤ scale.size := Nat.cast_nonneg _
  have written := mul_le_mul_of_nonneg_right (Double.abs_atPlaces_sub 1 (inScale scale count)) size
  have rounded := abs_exactValue_inScale_sub some fits
  rw [← abs_of_nonneg size, ← abs_mul, abs_of_nonneg size, sub_mul] at written
  calc
    |(inScale scale count).atPlaces 1 * scale.size - count.toNat|
      ≤ |(inScale scale count).atPlaces 1 * scale.size -
            (inScale scale count).exactValue * scale.size| +
          |(inScale scale count).exactValue * scale.size - count.toNat| := abs_sub_le _ _ _
    _ ≤ 1 / 2 / 10 ^ 1 * scale.size + scale.size / 20 := add_le_add written rounded
    _ = scale.size / 10 := by ring

end Scaled

/-! ## Reading -/

/-- A count as it stands in a text. -/
structure ReadTokens where
  mantissa : ReadDecimal
  scale : TokenScale

namespace ReadTokens

def quantity (read : ReadTokens) : ℚ := read.mantissa.value * read.scale.size

/-- Whether a mantissa is one for its scale: below a thousand, and not below one if there is a
smaller scale. -/
def FitsScale (read : ReadTokens) : Prop :=
  match read.scale with
  | .ones => read.mantissa.value < 1000
  | .thousands => 1 ≤ read.mantissa.value ∧ read.mantissa.value ≤ 9999 / 10
  | .millions => 1 ≤ read.mantissa.value

end ReadTokens

/-- Reads a count: digits, or a decimal in front of the mark of its scale. -/
def readTokens? (text : String) : Option ReadTokens :=
  match text.toList.getLast? with
  | some 'K' => (readDecimal? text.toList.dropLast).map (⟨·, .thousands⟩)
  | some 'M' => (readDecimal? text.toList.dropLast).map (⟨·, .millions⟩)
  | _ =>
      let digits := takeDigits text.toList
      if digits.1.isEmpty ∨ ¬ digits.2.isEmpty then none
      else some ⟨⟨digitsValue digits.1, 0⟩, .ones⟩

theorem readTokens?_digits {digits : List Char} (areDigits : Json.AreDigits digits) :
    readTokens? (String.ofList digits) = some ⟨⟨digitsValue digits, 0⟩, .ones⟩ := by
  have taken : takeDigits (digits ++ []) = (digits, []) := areDigits.takeDigits_append (by simp)
  have mark {character : Char} (last : digits.getLast? = some character) :
      character.isDigit = true := areDigits.digits _ (List.mem_of_getLast? last)
  rw [List.append_nil] at taken
  rw [readTokens?, String.toList_ofList]
  split
  · rename_i last
    exact absurd (mark last) (by decide)
  · rename_i last
    exact absurd (mark last) (by decide)
  · dsimp only
    rw [taken, if_neg (by simp [areDigits.filled])]

theorem readDecimal?_inScale (scale : TokenScale) (count : UInt64) :
    readDecimal? ((inScale scale count).fixedText 1).toList =
      some ⟨(inScale scale count).atPlaces 1, 1⟩ := by
  obtain ⟨negative, number, -⟩ := inScale_hasMagnitude scale count
  rw [number]
  exact Double.readDecimal?_fixedText Nat.one_pos (scaled_finite scale count)

theorem readTokens?_thousands (decimal : String) :
    readTokens? (decimal ++ "K") = (readDecimal? decimal.toList).map (⟨·, .thousands⟩) := by
  have characters : (decimal ++ "K").toList = decimal.toList ++ ['K'] := String.toList_append
  rw [readTokens?, characters, List.getLast?_concat, List.dropLast_concat]
  rfl

theorem readTokens?_millions (decimal : String) :
    readTokens? (decimal ++ "M") = (readDecimal? decimal.toList).map (⟨·, .millions⟩) := by
  have characters : (decimal ++ "M").toList = decimal.toList ++ ['M'] := String.toList_append
  rw [readTokens?, characters, List.getLast?_concat, List.dropLast_concat]
  rfl

/-- What a count is shown as: a count below a thousand as it is, and another one in its scale. -/
def shownTokens (count : UInt64) : ReadTokens :=
  match TokenScale.ofCount count with
  | .ones => ⟨⟨count.toNat, 0⟩, .ones⟩
  | scale => ⟨⟨(inScale scale count).atPlaces 1, 1⟩, scale⟩

section Shown

variable {count : UInt64}

theorem shownTokens_ones (below : count < 1000) :
    shownTokens count = ⟨⟨count.toNat, 0⟩, .ones⟩ := by
  have thousand : ¬ 1000 ≤ count := UInt64.not_le.mpr below
  have million : ¬ 1000000 ≤ count := fun reached =>
    thousand (UInt64.le_trans (by decide) reached)
  rw [shownTokens, TokenScale.ofCount, if_neg million, if_neg thousand]

theorem shownTokens_thousands (reached : 1000 ≤ count) (below : count < 1000000) :
    shownTokens count = ⟨⟨(inScale .thousands count).atPlaces 1, 1⟩, .thousands⟩ := by
  rw [shownTokens, TokenScale.ofCount, if_neg (UInt64.not_le.mpr below), if_pos reached]

theorem shownTokens_millions (reached : 1000000 ≤ count) :
    shownTokens count = ⟨⟨(inScale .millions count).atPlaces 1, 1⟩, .millions⟩ := by
  rw [shownTokens, TokenScale.ofCount, if_pos reached]

theorem readTokens?_tokens (count : UInt64) :
    readTokens? (tokens count) = some (shownTokens count) := by
  rw [tokens]
  by_cases million : 1000000 ≤ count
  · have read := readDecimal?_inScale .millions count
    rw [shownTokens_millions million, if_pos million]
    simp only [inScale, TokenScale.size] at read ⊢
    rw [readTokens?_millions, read, Option.map_some]
  · rw [if_neg million]
    by_cases thousand : 1000 ≤ count
    · have read := readDecimal?_inScale .thousands count
      rw [shownTokens_thousands thousand (UInt64.not_le.mp million), if_pos thousand]
      simp only [inScale, TokenScale.size] at read ⊢
      rw [readTokens?_thousands, read, Option.map_some]
    · rw [shownTokens_ones (UInt64.not_le.mp thousand), if_neg thousand,
        readTokens?_digits (Json.areDigits_toDigits _), Json.digitsValue_toDigits]

/-! ## Ends of scales -/

section Ends

variable {scale : TokenScale} {landmark : UInt64} {tenths : Int}

theorem le_atPlaces_inScale (counted : (inScale scale landmark).placeUnits 1 = tenths)
    (reached : landmark ≤ count) : (tenths : ℚ) / 10 ≤ (inScale scale count).atPlaces 1 := by
  rw [← counted, ← pow_one (10 : ℚ)]
  exact atPlaces_inScale_mono scale reached

theorem atPlaces_inScale_le (counted : (inScale scale landmark).placeUnits 1 = tenths)
    (below : count ≤ landmark) : (inScale scale count).atPlaces 1 ≤ (tenths : ℚ) / 10 := by
  rw [← counted, ← pow_one (10 : ℚ)]
  exact atPlaces_inScale_mono scale below

end Ends

theorem one_le_thousands (reached : 1000 ≤ count) :
    1 ≤ (inScale .thousands count).atPlaces 1 := by
  have counted : (inScale .thousands 1000).placeUnits 1 = 10 := by decide +kernel
  calc
    (1 : ℚ) = ((10 : Int) : ℚ) / 10 := by norm_num
    _ ≤ (inScale .thousands count).atPlaces 1 := le_atPlaces_inScale counted reached

theorem one_le_millions (reached : 1000000 ≤ count) :
    1 ≤ (inScale .millions count).atPlaces 1 := by
  have counted : (inScale .millions 1000000).placeUnits 1 = 10 := by decide +kernel
  calc
    (1 : ℚ) = ((10 : Int) : ℚ) / 10 := by norm_num
    _ ≤ (inScale .millions count).atPlaces 1 := le_atPlaces_inScale counted reached

/-- The last count that is not rounded up to a thousand thousands. -/
theorem thousands_le_of_lt (below : count < 999950) :
    (inScale .thousands count).atPlaces 1 ≤ 9999 / 10 := by
  have counted : (inScale .thousands 999949).placeUnits 1 = 9999 := by decide +kernel
  have beneath : count ≤ 999949 := by
    rw [UInt64.le_iff_toNat_le]
    exact Nat.le_of_lt_succ (UInt64.lt_iff_toNat_lt.mp below)
  calc
    (inScale .thousands count).atPlaces 1 ≤ ((9999 : Int) : ℚ) / 10 :=
      atPlaces_inScale_le counted beneath
    _ = 9999 / 10 := by norm_num

theorem thousands_le (below : count < 1000000) :
    (inScale .thousands count).atPlaces 1 ≤ 1000 := by
  have counted : (inScale .thousands 1000000).placeUnits 1 = 10000 := by decide +kernel
  calc
    (inScale .thousands count).atPlaces 1 ≤ ((10000 : Int) : ℚ) / 10 :=
      atPlaces_inScale_le counted (UInt64.le_of_lt below)
    _ = 1000 := by norm_num

theorem le_thousands (reached : 999950 ≤ count) :
    1000 ≤ (inScale .thousands count).atPlaces 1 := by
  have counted : (inScale .thousands 999950).placeUnits 1 = 10000 := by decide +kernel
  calc
    (1000 : ℚ) = ((10000 : Int) : ℚ) / 10 := by norm_num
    _ ≤ (inScale .thousands count).atPlaces 1 := le_atPlaces_inScale counted reached

/-! ## Shown counts -/

/-- Whether a count is one of the last below a million, which are rounded up to it. -/
structure RoundsToMillion (count : UInt64) : Prop where
  atLeast : 999950 ≤ count
  below : count < 1000000

/-- How the text of a count shows it. -/
structure ShowsTokens (count : UInt64) (shown : ReadTokens) : Prop where
  read : readTokens? (tokens count) = some shown
  near : |shown.quantity - count.toNat| ≤ (shown.scale.size : ℚ) / 10
  fits : shown.FitsScale ↔ ¬ RoundsToMillion count
  overflows : RoundsToMillion count → shown.scale = .thousands ∧ shown.mantissa.value = 1000

theorem cases_count (count : UInt64) :
    count < 1000 ∨ (1000 ≤ count ∧ count < 1000000) ∨ 1000000 ≤ count := by
  by_cases million : 1000000 ≤ count
  · exact .inr (.inr million)
  · by_cases thousand : 1000 ≤ count
    · exact .inr (.inl ⟨thousand, UInt64.not_le.mp million⟩)
    · exact .inl (UInt64.not_le.mp thousand)

theorem shows_ones (below : count < 1000) : ShowsTokens count (shownTokens count) := by
  have belowNat : count.toNat < 1000 := UInt64.lt_iff_toNat_lt.mp below
  have notRounded : ¬ RoundsToMillion count := fun rounds =>
    absurd (UInt64.lt_of_le_of_lt rounds.atLeast below) (by decide)
  have read := readTokens?_tokens count
  rw [shownTokens_ones below] at read ⊢
  refine ⟨read, ?_, iff_of_true ?_ notRounded, fun rounds => absurd rounds notRounded⟩
  · norm_num [ReadTokens.quantity, TokenScale.size]
  · change (count.toNat : ℚ) < 1000
    exact_mod_cast belowNat

theorem shows_thousands (reached : 1000 ≤ count) (below : count < 1000000) :
    ShowsTokens count (shownTokens count) := by
  have reachedNat : 1000 ≤ count.toNat := UInt64.le_iff_toNat_le.mp reached
  have belowNat : count.toNat < 1000000 := UInt64.lt_iff_toNat_lt.mp below
  have bound : count.toNat ≤ TokenScale.thousands.size * 70368744177664 := by
    simp only [TokenScale.size]
    omega
  have read := readTokens?_tokens count
  have least := one_le_thousands reached
  have most := thousands_le below
  rw [shownTokens_thousands reached below] at read ⊢
  refine ⟨read, abs_atPlaces_inScale_sub (by omega) bound, ?_, ?_⟩
  · change 1 ≤ (inScale .thousands count).atPlaces 1 ∧
      (inScale .thousands count).atPlaces 1 ≤ 9999 / 10 ↔ _
    constructor
    · rintro ⟨-, short⟩ rounds
      linarith [le_thousands rounds.atLeast]
    · intro notRounded
      refine ⟨least, thousands_le_of_lt ?_⟩
      by_contra atLeast
      exact notRounded ⟨UInt64.not_lt.mp atLeast, below⟩
  · intro rounds
    exact ⟨rfl, le_antisymm most (le_thousands rounds.atLeast)⟩

theorem shows_millions (reached : 1000000 ≤ count) : ShowsTokens count (shownTokens count) := by
  have reachedNat : 1000000 ≤ count.toNat := UInt64.le_iff_toNat_le.mp reached
  have bound : count.toNat ≤ TokenScale.millions.size * 70368744177664 := by
    have word := count.toNat_lt
    simp only [TokenScale.size]
    omega
  have notRounded : ¬ RoundsToMillion count := fun rounds =>
    absurd (UInt64.lt_of_le_of_lt reached rounds.below) (by decide)
  have read := readTokens?_tokens count
  rw [shownTokens_millions reached] at read ⊢
  exact ⟨read, abs_atPlaces_inScale_sub (by omega) bound,
    iff_of_true (one_le_millions reached) notRounded, fun rounds => absurd rounds notRounded⟩

theorem shownTokens_shows (count : UInt64) : ShowsTokens count (shownTokens count) := by
  rcases cases_count count with below | ⟨reached, below⟩ | reached
  · exact shows_ones below
  · exact shows_thousands reached below
  · exact shows_millions reached

/-! ## Order -/

theorem quantity_ones (below : count < 1000) : (shownTokens count).quantity = count.toNat := by
  rw [shownTokens_ones below, ReadTokens.quantity]
  norm_num [TokenScale.size]

theorem quantity_thousands (reached : 1000 ≤ count) (below : count < 1000000) :
    (shownTokens count).quantity = (inScale .thousands count).atPlaces 1 * 1000 := by
  rw [shownTokens_thousands reached below, ReadTokens.quantity]
  norm_num [TokenScale.size]

theorem quantity_millions (reached : 1000000 ≤ count) :
    (shownTokens count).quantity = (inScale .millions count).atPlaces 1 * 1000000 := by
  rw [shownTokens_millions reached, ReadTokens.quantity]
  norm_num [TokenScale.size]

end Shown

/-- Larger counts are not shown as smaller quantities, since each scale starts with the largest
quantity that the scale below it may show. -/
theorem quantity_mono {fewer more : UInt64} (grows : fewer ≤ more) :
    (shownTokens fewer).quantity ≤ (shownTokens more).quantity := by
  rcases cases_count fewer with small | ⟨reached, below⟩ | reached
  · rw [quantity_ones small]
    have smallNat : fewer.toNat < 1000 := UInt64.lt_iff_toNat_lt.mp small
    have smallCast : (fewer.toNat : ℚ) < 1000 := by exact_mod_cast smallNat
    rcases cases_count more with moreSmall | ⟨moreReached, moreBelow⟩ | moreReached
    · rw [quantity_ones moreSmall]
      exact_mod_cast UInt64.le_iff_toNat_le.mp grows
    · rw [quantity_thousands moreReached moreBelow]
      linarith [one_le_thousands moreReached]
    · rw [quantity_millions moreReached]
      linarith [one_le_millions moreReached]
  · rw [quantity_thousands reached below]
    rcases cases_count more with moreSmall | ⟨moreReached, moreBelow⟩ | moreReached
    · exact absurd (UInt64.le_trans reached grows) (UInt64.not_le.mpr moreSmall)
    · rw [quantity_thousands moreReached moreBelow]
      linarith [atPlaces_inScale_mono .thousands grows]
    · rw [quantity_millions moreReached]
      linarith [thousands_le below, one_le_millions moreReached]
  · rw [quantity_millions reached, quantity_millions (UInt64.le_trans reached grows)]
    linarith [atPlaces_inScale_mono .millions grows]

/-- Counts are shown in their order, each as exactly as its scale allows, and each in the scale
that fits its text unless it is rounded up to a million. -/
theorem tokens_keepOrder {fewer more : UInt64} (grows : fewer ≤ more) :
    ∃ shownFewer shownMore, ShowsTokens fewer shownFewer ∧ ShowsTokens more shownMore ∧
      shownFewer.quantity ≤ shownMore.quantity :=
  ⟨shownTokens fewer, shownTokens more, shownTokens_shows fewer, shownTokens_shows more,
    quantity_mono grows⟩

/-- The last count with a mantissa below a thousand and the first million. -/
theorem tokens_keepOrder_million :
    (999949 : UInt64) ≤ 1000000 ∧ tokens 999949 = "999.9K" ∧ tokens 1000000 = "1.0M" ∧
      ∃ shownFewer shownMore, readTokens? "999.9K" = some shownFewer ∧
        readTokens? "1.0M" = some shownMore ∧ shownFewer.FitsScale ∧ shownMore.FitsScale ∧
        shownFewer.quantity ≤ shownMore.quantity := by
  have grows : (999949 : UInt64) ≤ 1000000 := by decide
  have fewer : tokens 999949 = "999.9K" := by decide +kernel
  have more : tokens 1000000 = "1.0M" := by decide +kernel
  obtain ⟨shownFewer, shownMore, showsFewer, showsMore, inOrder⟩ := tokens_keepOrder grows
  refine ⟨grows, fewer, more, shownFewer, shownMore, ?_, ?_, ?_, ?_, inOrder⟩
  · rw [← fewer]
    exact showsFewer.read
  · rw [← more]
    exact showsMore.read
  · exact showsFewer.fits.mpr fun rounds => absurd rounds.atLeast (by decide)
  · exact showsMore.fits.mpr fun rounds => absurd rounds.below (by decide)

/-- A count just below a million is shown as a thousand thousands and not as a million. -/
theorem thousand_thousands_are_shown :
    tokens 999950 = "1000.0K" ∧
      ∃ shown, readTokens? "1000.0K" = some shown ∧ ¬ shown.FitsScale := by
  have text : tokens 999950 = "1000.0K" := by decide +kernel
  have shows := shownTokens_shows 999950
  refine ⟨text, shownTokens 999950, ?_, ?_⟩
  · rw [← text]
    exact shows.read
  · intro fits
    exact shows.fits.mp fits ⟨by decide, by decide⟩

end Amount

end NodeAdmin
