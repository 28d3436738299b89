import Mathlib.Algebra.Order.Field.Basic
import Mathlib.Data.Rat.Cast.Order
import Mathlib.Tactic.FieldSimp
import NodeAdmin.Double.Reading
import NodeAdmin.Double.Text
import NodeAdmin.Proofs.Double.Accuracy
import NodeAdmin.Proofs.Time.Timestamps

/-!
# Fixed decimal places

A double that is written with a fixed number of decimal places reads as the decimal nearest to its
exact value.  Writing two doubles with the same number of places keeps their order, and what is
written is at most half a unit of the last place away from the exact value.
-/

namespace NodeAdmin

/-! ## Nearest decimals -/

namespace Double

/-- The exact value of a finite double. -/
def exactValue : Double → ℚ
  | nan => 0
  | number negative magnitude => signedUnits negative magnitude / unitsPerOne

/-- The size of a finite double counted in units of a decimal place, to the nearest whole number. -/
def placeCount (places : Nat) (magnitude : Magnitude) : Nat :=
  roundQuotient (magnitude.units * 10 ^ places) unitsPerOne

def placeUnits (places : Nat) : Double → Int
  | nan => 0
  | number negative magnitude =>
      if negative then -(placeCount places magnitude : Int) else placeCount places magnitude

/-- The decimal with so many places that is nearest to a finite double. -/
def atPlaces (places : Nat) (value : Double) : ℚ := value.placeUnits places / 10 ^ places

section Signs

variable {places : Nat} {magnitude : Magnitude}

theorem exactValue_positive :
    (number false magnitude).exactValue = (magnitude.units : ℚ) / unitsPerOne := by
  rw [exactValue, signedUnits, if_neg Bool.false_ne_true, Int.cast_natCast]

theorem exactValue_negative :
    (number true magnitude).exactValue = -((magnitude.units : ℚ) / unitsPerOne) := by
  rw [exactValue, signedUnits, if_pos rfl, Int.cast_neg, Int.cast_natCast, neg_div]

theorem atPlaces_positive :
    (number false magnitude).atPlaces places = (placeCount places magnitude : ℚ) / 10 ^ places := by
  rw [atPlaces, placeUnits, if_neg Bool.false_ne_true, Int.cast_natCast]

theorem atPlaces_negative :
    (number true magnitude).atPlaces places =
      -((placeCount places magnitude : ℚ) / 10 ^ places) := by
  rw [atPlaces, placeUnits, if_pos rfl, Int.cast_neg, Int.cast_natCast, neg_div]

end Signs

section Order

variable {places : Nat}

theorem placeCount_mono {magnitude other : Magnitude} (fewer : magnitude.val ≤ other.val) :
    placeCount places magnitude ≤ placeCount places other :=
  roundQuotient_mono (Nat.mul_le_mul_right _ (Magnitude.units_mono fewer)) _

theorem placeCount_zero {magnitude : Magnitude} (zero : magnitude.val = 0) :
    placeCount places magnitude = 0 := by
  rw [placeCount, Magnitude.zero_units_of_val zero, Nat.zero_mul]
  simp [roundQuotient]

theorem placeUnits_mono {left right : Double} (atMost : left.le right = true) :
    left.placeUnits places ≤ right.placeUnits places := by
  cases left with
  | nan => cases atMost
  | number leftSign leftMagnitude =>
      cases right with
      | nan => cases atMost
      | number rightSign rightMagnitude =>
          have ranks : rank leftSign leftMagnitude ≤ rank rightSign rightMagnitude :=
            of_decide_eq_true atMost
          unfold rank at ranks
          unfold placeUnits
          cases leftSign with
          | false =>
              cases rightSign with
              | false =>
                  simp only [Bool.false_eq_true, if_false] at ranks ⊢
                  exact Int.ofNat_le.mpr (placeCount_mono (Int.ofNat_le.mp ranks))
              | true =>
                  simp only [Bool.false_eq_true, if_false, if_true] at ranks ⊢
                  -- Only the two zeros are such a pair.
                  rw [placeCount_zero (by omega), placeCount_zero (by omega)]
                  omega
          | true =>
              cases rightSign with
              | false =>
                  simp only [Bool.false_eq_true, if_false, if_true]
                  omega
              | true =>
                  simp only [if_true] at ranks ⊢
                  have sizes : placeCount places rightMagnitude ≤ placeCount places leftMagnitude :=
                    placeCount_mono (by omega)
                  omega

theorem atPlaces_mono {left right : Double} (atMost : left.le right = true) :
    left.atPlaces places ≤ right.atPlaces places := by
  have units : (left.placeUnits places : ℚ) ≤ right.placeUnits places :=
    Int.cast_le.mpr (placeUnits_mono atMost)
  exact div_le_div_of_nonneg_right units (by positivity)

end Order

/-! ## Half a unit -/

theorem abs_placeCount_sub (places : Nat) (magnitude : Magnitude) :
    |(placeCount places magnitude : ℚ) / 10 ^ places - magnitude.units / unitsPerOne| ≤
      1 / 2 / 10 ^ places := by
  have positive : (0 : ℚ) < unitsPerOne := Nat.cast_pos.mpr unitsPerOne_pos
  have unit : (0 : ℚ) < 10 ^ places := by positivity
  have below : 2 * ((magnitude.units : ℚ) * 10 ^ places) ≤
      (2 * placeCount places magnitude + 1) * unitsPerOne := by
    exact_mod_cast roundQuotient_error (magnitude.units * 10 ^ places) unitsPerOne_pos
  have above : 2 * ((placeCount places magnitude : ℚ) * unitsPerOne) ≤
      2 * ((magnitude.units : ℚ) * 10 ^ places) + unitsPerOne := by
    exact_mod_cast roundQuotient_excess (magnitude.units * 10 ^ places) unitsPerOne_pos
  generalize (placeCount places magnitude : ℚ) = count at *
  generalize (magnitude.units : ℚ) = units at *
  generalize (unitsPerOne : ℚ) = one at *
  generalize (10 : ℚ) ^ places = scale at *
  have apart : count / scale - units / one = (count * one - units * scale) / (scale * one) := by
    field_simp
  rw [apart, abs_div, abs_of_pos (mul_pos unit positive), div_le_iff₀ (mul_pos unit positive)]
  have half : 1 / 2 / scale * (scale * one) = one / 2 := by
    field_simp
  rw [half, abs_le]
  constructor <;> linarith

/-- The nearest decimal is half a unit of its last place away at most. -/
theorem abs_atPlaces_sub (places : Nat) (value : Double) :
    |value.atPlaces places - value.exactValue| ≤ 1 / 2 / 10 ^ places := by
  cases value with
  | nan =>
      simp only [atPlaces, placeUnits, exactValue, Int.cast_zero, zero_div, sub_zero, abs_zero]
      positivity
  | number negative magnitude =>
      have near := abs_placeCount_sub places magnitude
      cases negative with
      | false => rwa [atPlaces_positive, exactValue_positive]
      | true => rwa [atPlaces_negative, exactValue_negative, ← neg_sub', abs_neg]

end Double

/-! ## Reading -/

/-- A decimal as it stands in a text: its value, and how many decimal places it has. -/
structure ReadDecimal where
  value : ℚ
  places : Nat

/-- Reads digits with a point and further digits behind it, and a sign in front of them. -/
def readDecimal? (text : List Char) : Option ReadDecimal :=
  let signed := takeSign text
  let whole := takeDigits signed.2
  match whole.2 with
  | '.' :: behind =>
      let fraction := takeDigits behind
      if whole.1.isEmpty ∨ fraction.1.isEmpty ∨ ¬ fraction.2.isEmpty then none
      else
        let size : ℚ := digitsValue (whole.1 ++ fraction.1) / 10 ^ fraction.1.length
        some ⟨if signed.1 then -size else size, fraction.1.length⟩
  | _ => none

theorem digitsValue_append (front back : List Char) :
    digitsValue (front ++ back) = digitsValue front * 10 ^ back.length + digitsValue back := by
  induction back using List.reverseRecOn with
  | nil => simp [digitsValue]
  | append_singleton back digit induction =>
      rw [← List.append_assoc, Json.digitsValue_concat, induction, Json.digitsValue_concat,
        List.length_append, List.length_singleton]
      ring

theorem readDecimal?_parts (negative : Bool) {whole fraction : List Char}
    (isWhole : Json.AreDigits whole) (isFraction : Json.AreDigits fraction) :
    readDecimal? ((Double.signText negative).toList ++ (whole ++ '.' :: fraction)) =
      some ⟨if negative then -(digitsValue (whole ++ fraction) / 10 ^ fraction.length)
        else digitsValue (whole ++ fraction) / 10 ^ fraction.length, fraction.length⟩ := by
  have signTaken : takeSign ((Double.signText negative).toList ++ (whole ++ '.' :: fraction)) =
      (negative, whole ++ '.' :: fraction) := by
    cases negative with
    | false => exact isWhole.takeSign_append _
    | true => rfl
  have wholeTaken : takeDigits (whole ++ '.' :: fraction) = (whole, '.' :: fraction) :=
    isWhole.takeDigits_append (by simp)
  have fractionTaken : takeDigits (fraction ++ []) = (fraction, []) :=
    isFraction.takeDigits_append (by simp)
  rw [List.append_nil] at fractionTaken
  simp only [readDecimal?, signTaken, wholeTaken, fractionTaken]
  rw [if_neg (by simp [isWhole.filled, isFraction.filled])]

namespace Double

/-- What is written with decimal places reads as the nearest decimal with as many places. -/
theorem readDecimal?_fixedText {places : Nat} (positive : 0 < places) {negative : Bool}
    {magnitude : Magnitude} (finite : magnitude.IsFinite) :
    readDecimal? ((number negative magnitude).fixedText places).toList =
      some ⟨(number negative magnitude).atPlaces places, places⟩ := by
  have unit : 0 < 10 ^ places := Nat.pow_pos (by decide)
  have fits := Nat.mod_lt (placeCount places magnitude) unit
  have length := Time.padded_length positive fits
  have isFraction :
      Json.AreDigits (Time.padded places (placeCount places magnitude % 10 ^ places)) := by
    refine ⟨?_, Time.padded_areDigits⟩
    rw [← List.length_pos_iff, length]
    exact positive
  have written : ((number negative magnitude).fixedText places).toList =
      (signText negative).toList ++
        (Nat.toDigits 10 (placeCount places magnitude / 10 ^ places) ++
          '.' :: Time.padded places (placeCount places magnitude % 10 ^ places)) := by
    rw [fixedText, not_isInfiniteMagnitude finite, if_neg Bool.false_ne_true,
      if_neg (Nat.ne_of_gt positive), String.toList_append, String.toList_ofList]
    rfl
  have value : digitsValue (Nat.toDigits 10 (placeCount places magnitude / 10 ^ places) ++
      Time.padded places (placeCount places magnitude % 10 ^ places)) =
        placeCount places magnitude := by
    rw [digitsValue_append, Json.digitsValue_toDigits, length, Time.digitsValue_padded,
      Nat.div_add_mod']
  rw [written, readDecimal?_parts negative (Json.areDigits_toDigits _) isFraction, value, length]
  cases negative with
  | false => rw [if_neg Bool.false_ne_true, atPlaces_positive]
  | true => rw [if_pos rfl, atPlaces_negative]

end Double

end NodeAdmin
