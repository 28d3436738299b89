import NodeAdmin.Cost.Amount
import NodeAdmin.Proofs.Double.FixedPlaces
import NodeAdmin.Proofs.Double.Order

/-!
# Shown costs

Costs that are shown with fewer places are shown with the same value at the threshold to the finer
ones, so that no rounding lets a smaller cost overtake a larger one.
-/

namespace NodeAdmin.Amount

/-! ## Thresholds -/

/-- The thresholds of costs, each with the numbers of places it may be shown with. -/
def thresholds : List (Nat × Nat) :=
  [(6, 8), (6, 6), (3, 8), (3, 6), (3, 4), (2, 8), (2, 6), (2, 4), (2, 3)]

theorem decimalPlace_number (place : Nat) : decimalPlace place ≠ .nan := by
  unfold decimalPlace Double.ofDecimal Double.ofQuotient
  dsimp only
  split_ifs <;> nofun

/-- A threshold is no decimal, but is rounded to one with any of its numbers of places. -/
theorem atPlaces_decimalPlace {place places : Nat} (listed : (place, places) ∈ thresholds) :
    (decimalPlace place).atPlaces places = 1 / 10 ^ place := by
  have counted : ∀ entry ∈ thresholds, entry.1 ≤ entry.2 ∧
      (decimalPlace entry.1).placeUnits entry.2 = 10 ^ (entry.2 - entry.1) := by
    decide +kernel
  obtain ⟨fewer, units⟩ := counted _ listed
  dsimp only at fewer units
  have powers : (10 : ℚ) ^ places = 10 ^ (places - place) * 10 ^ place := by
    rw [← pow_add, Nat.sub_add_cancel fewer]
  rw [Double.atPlaces, units, powers]
  push_cast
  field_simp

section Tiers

variable {value : Double}

theorem costPlaces_pos : 0 < costPlaces value := by
  unfold costPlaces
  split_ifs <;> decide

theorem costPlaces_lowest (below : value.le (decimalPlace 6) = true) : costPlaces value = 8 :=
  if_pos below

theorem costPlaces_low (above : value.le (decimalPlace 6) = false)
    (below : value.lt (decimalPlace 3) = true) : costPlaces value = 6 := by
  rw [costPlaces, above, below]
  rfl

theorem not_lowest (above : value.lt (decimalPlace 3) = false) :
    value.le (decimalPlace 6) = false := by
  by_contra below
  rw [Bool.not_eq_false] at below
  have order : (decimalPlace 6).lt (decimalPlace 3) = true := by decide +kernel
  rw [Double.lt_of_le_of_lt below order] at above
  cases above

theorem costPlaces_middle (above : value.lt (decimalPlace 3) = false)
    (below : value.lt (decimalPlace 2) = true) : costPlaces value = 4 := by
  rw [costPlaces, not_lowest above, above, below]
  rfl

theorem costPlaces_highest (above : value.lt (decimalPlace 2) = false) : costPlaces value = 3 := by
  have aboveLow : value.lt (decimalPlace 3) = false := by
    by_contra below
    rw [Bool.not_eq_false] at below
    have order : (decimalPlace 3).lt (decimalPlace 2) = true := by decide +kernel
    rw [Double.lt_of_le_of_lt (Double.le_of_lt below) order] at above
    cases above
  rw [costPlaces, not_lowest aboveLow, aboveLow, above]
  rfl

end Tiers

/-- Between two costs that are shown with different numbers of places there is a threshold. -/
theorem exists_threshold {left right : Double} (atMost : left.le right = true)
    (differ : costPlaces left ≠ costPlaces right) :
    ∃ place, left.le (decimalPlace place) = true ∧ (decimalPlace place).le right = true ∧
      (place, costPlaces left) ∈ thresholds ∧ (place, costPlaces right) ∈ thresholds := by
  have rightNumber := (Double.numbers_of_le atMost).2
  have above {place : Nat} (notBelow : right.lt (decimalPlace place) = false) :=
    Double.le_of_not_lt rightNumber (decimalPlace_number place) notBelow
  -- The threshold is the one at the lower end of the tier of the larger cost.
  cases lowest : right.le (decimalPlace 6) with
  | true =>
      have leftLowest := Double.le_trans atMost lowest
      rw [costPlaces_lowest lowest, costPlaces_lowest leftLowest] at differ
      exact absurd rfl differ
  | false =>
      cases low : right.lt (decimalPlace 3) with
      | true =>
          rw [costPlaces_low lowest low] at differ ⊢
          cases leftLowest : left.le (decimalPlace 6) with
          | false =>
              have leftLow := Double.lt_of_le_of_lt atMost low
              exact absurd (costPlaces_low leftLowest leftLow) differ
          | true =>
              refine ⟨6, leftLowest, ?_, ?_, by decide⟩
              · exact Double.le_of_not_le rightNumber (decimalPlace_number 6) lowest
              · rw [costPlaces_lowest leftLowest]
                decide
      | false =>
          cases middle : right.lt (decimalPlace 2) with
          | true =>
              rw [costPlaces_middle low middle] at differ ⊢
              cases leftLow : left.lt (decimalPlace 3) with
              | false =>
                  have leftMiddle := Double.lt_of_le_of_lt atMost middle
                  exact absurd (costPlaces_middle leftLow leftMiddle) differ
              | true =>
                  refine ⟨3, Double.le_of_lt leftLow, above low, ?_, by decide⟩
                  unfold costPlaces
                  rw [if_pos leftLow]
                  split <;> decide
          | false =>
              rw [costPlaces_highest middle] at differ ⊢
              cases leftMiddle : left.lt (decimalPlace 2) with
              | false => exact absurd (costPlaces_highest leftMiddle) differ
              | true =>
                  refine ⟨2, Double.le_of_lt leftMiddle, above middle, ?_, by decide⟩
                  unfold costPlaces
                  rw [if_pos leftMiddle]
                  split_ifs <;> decide

theorem atPlaces_costPlaces_mono {left right : Double} (atMost : left.le right = true) :
    left.atPlaces (costPlaces left) ≤ right.atPlaces (costPlaces right) := by
  by_cases same : costPlaces left = costPlaces right
  · rw [same]
    exact Double.atPlaces_mono atMost
  · obtain ⟨place, below, above, fine, coarse⟩ := exists_threshold atMost same
    calc
      left.atPlaces (costPlaces left) ≤ (decimalPlace place).atPlaces (costPlaces left) :=
        Double.atPlaces_mono below
      _ = (decimalPlace place).atPlaces (costPlaces right) := by
        rw [atPlaces_decimalPlace fine, atPlaces_decimalPlace coarse]
      _ ≤ right.atPlaces (costPlaces right) := Double.atPlaces_mono above

/-! ## Reading -/

/-- Reads a cost: nothing is due, or a decimal behind the mark of the currency. -/
def readCost? (text : String) : Option ReadDecimal :=
  if text = "Free" then some ⟨0, 0⟩
  else match text.toList with
    | '$' :: decimal => readDecimal? decimal
    | _ => none

/-- How the text of a cost tells its exact value. -/
structure Shows (value : Double) (shown : ReadDecimal) : Prop where
  read : readCost? (cost value) = some shown
  free : cost value = "Free" ↔ value.exactValue = 0
  near : |shown.value - value.exactValue| ≤ 1 / 2 / 10 ^ shown.places

theorem exactValue_eq_zero_iff {value : Double} (isNumber : value ≠ .nan) :
    value.exactValue = 0 ↔ value.isZero = true := by
  cases value with
  | nan => exact absurd rfl isNumber
  | number negative magnitude =>
      have units : magnitude.units = 0 ↔ magnitude.val = 0 := by
        refine ⟨?_, Magnitude.zero_units_of_val⟩
        intro none
        by_contra nonzero
        exact absurd none (Nat.ne_of_gt (Magnitude.unitsOf_pos (Nat.pos_of_ne_zero nonzero)))
      have one : (Double.unitsPerOne : ℚ) ≠ 0 :=
        Nat.cast_ne_zero.mpr (Nat.ne_of_gt Double.unitsPerOne_pos)
      have quotient : (magnitude.units : ℚ) / Double.unitsPerOne = 0 ↔ magnitude.val = 0 := by
        rw [div_eq_zero_iff, or_iff_left one, Nat.cast_eq_zero, units]
      rw [Double.isZero, beq_iff_eq]
      cases negative with
      | false => rw [Double.exactValue_positive, quotient]
      | true => rw [Double.exactValue_negative, neg_eq_zero, quotient]

theorem atPlaces_of_zero {places : Nat} {value : Double} (zero : value.isZero = true) :
    value.atPlaces places = 0 := by
  cases value with
  | nan => cases zero
  | number negative magnitude =>
      have none : Double.placeCount places magnitude = 0 :=
        Double.placeCount_zero (beq_iff_eq.mp zero)
      cases negative with
      | false => rw [Double.atPlaces_positive, none, Nat.cast_zero, zero_div]
      | true => rw [Double.atPlaces_negative, none, Nat.cast_zero, zero_div, neg_zero]

theorem exists_shown {value : Double} (finite : value.isFinite = true) :
    ∃ shown, Shows value shown ∧ shown.value = value.atPlaces (costPlaces value) := by
  have isNumber : value ≠ .nan := by
    rintro rfl
    cases finite
  have zero := exactValue_eq_zero_iff isNumber
  cases isZero : value.isZero with
  | true =>
      have free : cost value = "Free" := if_pos isZero
      have exact := zero.mpr isZero
      refine ⟨⟨0, 0⟩, ⟨?_, ?_, ?_⟩, (atPlaces_of_zero isZero).symm⟩
      · rw [free]
        rfl
      · exact ⟨fun _ => exact, fun _ => free⟩
      · rw [exact, sub_self, abs_zero]
        positivity
  | false =>
      have amount : cost value = "$" ++ value.fixedText (costPlaces value) := by
        rw [cost, isZero]
        rfl
      have paid : cost value ≠ "Free" := by
        rw [amount]
        intro same
        have firsts := congrArg (fun text : String => text.toList.head?) same
        rw [String.toList_append] at firsts
        cases firsts
      refine ⟨⟨value.atPlaces (costPlaces value), costPlaces value⟩, ⟨?_, ?_, ?_⟩, rfl⟩
      · rw [readCost?, if_neg paid, amount, String.toList_append]
        cases value with
        | nan => cases finite
        | number negative magnitude =>
            have isFinite : magnitude.val < infiniteOrdinal := of_decide_eq_true finite
            exact Double.readDecimal?_fixedText costPlaces_pos isFinite
      · rw [zero, isZero]
        exact iff_of_false paid Bool.false_ne_true
      · exact Double.abs_atPlaces_sub _ _

/-- Costs are shown in their order, each as exactly as its places allow, and only zero is free. -/
theorem cost_keepsOrder {left right : Double} (leftFinite : left.isFinite = true)
    (rightFinite : right.isFinite = true) (atMost : left.le right = true) :
    ∃ shownLeft shownRight, Shows left shownLeft ∧ Shows right shownRight ∧
      shownLeft.value ≤ shownRight.value := by
  obtain ⟨shownLeft, showsLeft, valueLeft⟩ := exists_shown leftFinite
  obtain ⟨shownRight, showsRight, valueRight⟩ := exists_shown rightFinite
  refine ⟨shownLeft, shownRight, showsLeft, showsRight, ?_⟩
  rw [valueLeft, valueRight]
  exact atPlaces_costPlaces_mono atMost

/-- A cost that is rounded up to the threshold above it. -/
def almostThousandth : Double := Double.ofDecimal false 9999999 (-10)

/-- The cost just below a threshold and the threshold are shown with other places, but alike. -/
theorem cost_keepsOrder_almostThousandth :
    almostThousandth.le (decimalPlace 3) = true ∧
      cost almostThousandth = "$0.001000" ∧ cost (decimalPlace 3) = "$0.0010" ∧
      ∃ shownLeft shownRight, readCost? "$0.001000" = some shownLeft ∧
        readCost? "$0.0010" = some shownRight ∧ shownLeft.value ≤ shownRight.value := by
  have atMost : almostThousandth.le (decimalPlace 3) = true := by decide +kernel
  have low : cost almostThousandth = "$0.001000" := by decide +kernel
  have middle : cost (decimalPlace 3) = "$0.0010" := by decide +kernel
  obtain ⟨shownLeft, shownRight, showsLeft, showsRight, inOrder⟩ :=
    cost_keepsOrder (by decide +kernel) (by decide +kernel) atMost
  refine ⟨atMost, low, middle, shownLeft, shownRight, ?_, ?_, inOrder⟩
  · rw [← low]
    exact showsLeft.read
  · rw [← middle]
    exact showsRight.read

end NodeAdmin.Amount
