import NodeAdmin.Proofs.Cost.TokenCounts

/-!
# Estimates of the tokens that reach the floor

A request with the estimated tokens costs the floor of its model but for the roundings of its
cost, which can leave the cost just below the floor.  With one token more of each kind the floor
is not applied.
-/

namespace NodeAdmin

open Double (saturated unitsPerOne)

/-- Whether a double is an amount that can be owed. -/
structure Double.IsAmount (value : Double) : Prop where
  finite : value.isFinite = true
  positive : value.isPositive = true

namespace Double.IsAmount

variable {value : Double}

theorem hasMagnitude (amount : value.IsAmount) :
    ∃ magnitude, value.HasMagnitude magnitude ∧ magnitude.IsFinite := by
  obtain ⟨magnitude, sized⟩ := hasMagnitude_of_zero_le (le_of_lt amount.positive)
  exact ⟨magnitude, sized, sized.isFinite_iff.mp amount.finite⟩

theorem val_pos {magnitude : Magnitude} (amount : value.IsAmount)
    (sized : value.HasMagnitude magnitude) : 0 < magnitude.val := by
  obtain ⟨negative, rfl, unsigned⟩ := sized
  have above : (0 : Int) < rank negative magnitude := of_decide_eq_true amount.positive
  rw [rank_of_sign unsigned] at above
  exact Int.natCast_pos.mp above

theorem not_le_zero (amount : value.IsAmount) : value.le zero = false := by
  rw [← Bool.not_eq_true]
  intro below
  have beneath := lt_of_le_of_lt below amount.positive
  rw [lt_irrefl] at beneath
  cases beneath

end Double.IsAmount

/-! ## Counts -/

theorem two_hasMagnitude :
    (Double.ofNat 2).HasMagnitude (Magnitude.ofCount 2) ∧ (Magnitude.ofCount 2).IsFinite ∧
      (Magnitude.ofCount 2).val ≠ 0 := by
  refine ⟨Double.HasMagnitude.ofNat 2, ?_⟩
  unfold Magnitude.IsFinite
  decide +kernel

theorem million_hasMagnitude :
    tokensPerMillion.HasMagnitude (Magnitude.ofCount 1000000) ∧
      (Magnitude.ofCount 1000000).IsFinite := by
  refine ⟨Double.HasMagnitude.ofNat 1000000, ?_⟩
  unfold Magnitude.IsFinite
  decide +kernel

/-- What a number of tokens costs that was counted for an amount. -/
structure Magnitude.BoughtBy (floor price : Magnitude) (tokens : UInt64) : Prop where
  nearly : 0 < tokens →
    floor.units ≤ (cost tokens.toNat price).units + floor.units / 1125899906842624
  reached : tokens < 1125899906842624 → floor.val ≤ (cost (tokens + 1).toNat price).val

theorem Magnitude.BoughtBy.nearly_of_le {floor price base : Magnitude} {tokens : UInt64}
    (bought : floor.BoughtBy price tokens) (some : 0 < tokens)
    (least : (cost tokens.toNat price).val ≤ base.val) :
    floor.units ≤ base.units + floor.units / 1125899906842624 := by
  calc
    floor.units ≤ (cost tokens.toNat price).units + floor.units / 1125899906842624 :=
      bought.nearly some
    _ ≤ base.units + floor.units / 1125899906842624 :=
      Nat.add_le_add_right (units_mono least) _

section

variable {cost price : Double} {floor priced : Magnitude}

theorem infinite_div {dividend : Double} (sized : dividend.HasMagnitude Magnitude.infinite)
    (priceSized : price.HasMagnitude priced) (priceFinite : priced.IsFinite)
    (positive : 0 < priced.val) : dividend / price = Double.infinity := by
  rw [sized.eq_number (by decide), priceSized.eq_number positive]
  change Double.div _ _ = _
  unfold Double.div
  dsimp only
  rw [Double.not_isInfiniteMagnitude priceFinite]
  rfl

/-- A quotient of an infinite dividend goes beyond all counts. -/
theorem saturated_of_infinite {dividend : Double}
    (sized : dividend.HasMagnitude Magnitude.infinite) (priceSized : price.HasMagnitude priced)
    (priceFinite : priced.IsFinite) (positive : 0 < priced.val) :
    (dividend / price).ceil.toUInt64 = saturated := by
  rw [infinite_div sized priceSized priceFinite positive]
  decide +kernel

/-- The tokens for a cost are counted by the quotient of the cost and the price. -/
theorem tokensForCost_countedBy (sized : cost.HasMagnitude floor) (finite : floor.IsFinite)
    (amount : price.IsAmount) (priceSized : price.HasMagnitude priced)
    (unsaturated : tokensForCost cost price ≠ saturated) :
    floor.perMillion.IsFinite ∧
      (Magnitude.ofQuotient (floor.perMillion.units * unitsPerOne) priced.units).CountedBy
        (tokensForCost cost price).toNat := by
  have priceFinite := priceSized.isFinite_iff.mp amount.finite
  have positive := amount.val_pos priceSized
  have dividend : (cost * tokensPerMillion).HasMagnitude floor.perMillion :=
    sized.mul million_hasMagnitude.1 finite million_hasMagnitude.2
  unfold tokensForCost at unsaturated ⊢
  rw [if_pos amount.positive] at unsaturated ⊢
  by_cases dividendFinite : floor.perMillion.IsFinite
  · refine ⟨dividendFinite, ?_⟩
    have quotient := dividend.div priceSized dividendFinite priceFinite (Nat.ne_of_gt positive)
    exact quotient.countedBy unsaturated
  · rw [Magnitude.eq_infinite dividendFinite] at dividend
    exact absurd (saturated_of_infinite dividend priceSized priceFinite positive) unsaturated

theorem tokensForCost_boughtBy (sized : cost.HasMagnitude floor) (finite : floor.IsFinite)
    (amount : price.IsAmount) (priceSized : price.HasMagnitude priced)
    (unsaturated : tokensForCost cost price ≠ saturated) :
    floor.BoughtBy priced (tokensForCost cost price) := by
  obtain ⟨dividendFinite, counted⟩ :=
    tokensForCost_countedBy sized finite amount priceSized unsaturated
  have positive : 0 < priced.units := Magnitude.unitsOf_pos (amount.val_pos priceSized)
  constructor
  · intro some
    exact counted.cost_nearly positive _ dividendFinite (UInt64.lt_iff_toNat_lt.mp some)
  · intro small
    have bounded : (tokensForCost cost price).toNat < 1125899906842624 :=
      UInt64.lt_iff_toNat_lt.mp small
    have oneMore : (tokensForCost cost price + 1).toNat =
        (tokensForCost cost price).toNat + 1 := by
      rw [UInt64.toNat_add, UInt64.toNat_one]
      exact Nat.mod_eq_of_lt (by omega)
    rw [oneMore]
    exact counted.le_cost_succ positive dividendFinite bounded

end

/-! ## Charges -/

/-- Whether a base cost is short of the floor by at most one of `parts` parts and some smallest
doubles. -/
def Charge.NearsMinimum (charge : Charge) (parts slack : Nat) : Prop :=
  ∃ base floor : Magnitude, charge.baseCost.HasMagnitude base ∧
    charge.minimum.HasMagnitude floor ∧
    floor.units ≤ base.units + floor.units / parts + slack

namespace Model

variable {model : Model} {inputTokens outputTokens : UInt64}

theorem unapplied_of_le
    (reached : model.minimumCharge.le (model.charge inputTokens outputTokens).baseCost = true) :
    (model.charge inputTokens outputTokens).minimumApplied = false := by
  rw [charge_minimumApplied, charge_finalCost, Double.lt_max, ← Bool.not_eq_true]
  intro below
  have beneath := Double.lt_of_le_of_lt reached below
  rw [Double.lt_irrefl] at beneath
  cases beneath

/-- Prices and floor of a model are amounts. -/
structure HasAmounts (model : Model) : Prop where
  minimum : model.minimumCharge.IsAmount
  inputPrice : model.inputPrice.IsAmount
  outputPrice : model.outputPrice.IsAmount

end Model

/-- No count of an estimate stands for larger ones. -/
structure MinimumEstimate.Unsaturated (estimate : MinimumEstimate) : Prop where
  inputOnly : estimate.inputOnly ≠ saturated
  outputOnly : estimate.outputOnly ≠ saturated
  balancedInput : estimate.balancedInput ≠ saturated
  balancedOutput : estimate.balancedOutput ≠ saturated

/-- What is charged for the tokens of an estimate.  The costs near the floor from below or above;
one token more of each kind reaches it as long as doubles tell the counts apart. -/
structure Model.EstimateFits (model : Model) (estimate : MinimumEstimate) : Prop where
  input : 0 < estimate.inputOnly →
    (model.charge estimate.inputOnly 0).NearsMinimum 1125899906842624 0
  output : 0 < estimate.outputOnly →
    (model.charge 0 estimate.outputOnly).NearsMinimum 1125899906842624 0
  balanced : 0 < estimate.balancedInput → 0 < estimate.balancedOutput →
    (model.charge estimate.balancedInput estimate.balancedOutput).NearsMinimum 562949953421312 1
  oneMoreInput : estimate.inputOnly < 1125899906842624 →
    (model.charge (estimate.inputOnly + 1) 0).minimumApplied = false
  oneMoreOutput : estimate.outputOnly < 1125899906842624 →
    (model.charge 0 (estimate.outputOnly + 1)).minimumApplied = false
  oneMoreBalanced : estimate.balancedInput < 1125899906842624 →
    estimate.balancedOutput < 1125899906842624 →
    model.minimumCharge / .ofNat 2 + model.minimumCharge / .ofNat 2 = model.minimumCharge →
    (model.charge (estimate.balancedInput + 1)
      (estimate.balancedOutput + 1)).minimumApplied = false

namespace Model

variable {model : Model}

theorem charge_hasMagnitude {inputPrice outputPrice : Magnitude}
    (inputSized : model.inputPrice.HasMagnitude inputPrice)
    (inputFinite : inputPrice.IsFinite)
    (outputSized : model.outputPrice.HasMagnitude outputPrice)
    (outputFinite : outputPrice.IsFinite) (inputTokens outputTokens : UInt64) :
    (model.charge inputTokens outputTokens).baseCost.HasMagnitude
      (.sum (.cost inputTokens.toNat inputPrice) (.cost outputTokens.toNat outputPrice)) := by
  rw [charge_baseCost]
  exact (tokenCost_hasMagnitude inputSized inputFinite inputTokens).add
    (tokenCost_hasMagnitude outputSized outputFinite outputTokens)

theorem estimate_of_not_le (above : model.minimumCharge.le Double.zero = false) :
    model.estimate =
      { inputOnly := tokensForCost model.minimumCharge model.inputPrice
        outputOnly := tokensForCost model.minimumCharge model.outputPrice
        balancedInput := tokensForCost (model.minimumCharge / .ofNat 2) model.inputPrice
        balancedOutput := tokensForCost (model.minimumCharge / .ofNat 2) model.outputPrice } := by
  simp only [estimate, above, Bool.false_eq_true, if_false]

theorem estimate_eq (minimum : model.minimumCharge.IsAmount) :
    model.estimate =
      { inputOnly := tokensForCost model.minimumCharge model.inputPrice
        outputOnly := tokensForCost model.minimumCharge model.outputPrice
        balancedInput := tokensForCost (model.minimumCharge / .ofNat 2) model.inputPrice
        balancedOutput := tokensForCost (model.minimumCharge / .ofNat 2) model.outputPrice } :=
  estimate_of_not_le minimum.not_le_zero

/-- An estimate fits its model if none of its counts is cut off. -/
theorem estimate_fits (amounts : model.HasAmounts) (unsaturated : model.estimate.Unsaturated) :
    model.EstimateFits model.estimate := by
  obtain ⟨floor, floorSized, floorFinite⟩ := amounts.minimum.hasMagnitude
  obtain ⟨inputPrice, inputSized, inputFinite⟩ := amounts.inputPrice.hasMagnitude
  obtain ⟨outputPrice, outputSized, outputFinite⟩ := amounts.outputPrice.hasMagnitude
  have halfSized : (model.minimumCharge / .ofNat 2).HasMagnitude floor.half :=
    floorSized.div two_hasMagnitude.1 floorFinite two_hasMagnitude.2.1 two_hasMagnitude.2.2
  have halfFinite := Magnitude.half_finite floorFinite
  have base := charge_hasMagnitude inputSized inputFinite outputSized outputFinite
  rw [estimate_eq amounts.minimum] at unsaturated ⊢
  have input := tokensForCost_boughtBy floorSized floorFinite amounts.inputPrice inputSized
    unsaturated.inputOnly
  have output := tokensForCost_boughtBy floorSized floorFinite amounts.outputPrice outputSized
    unsaturated.outputOnly
  have halfInput := tokensForCost_boughtBy halfSized halfFinite amounts.inputPrice inputSized
    unsaturated.balancedInput
  have halfOutput := tokensForCost_boughtBy halfSized halfFinite amounts.outputPrice outputSized
    unsaturated.balancedOutput
  constructor
  case input =>
    intro some
    refine ⟨_, floor, base _ _, floorSized, ?_⟩
    rw [Nat.add_zero]
    exact input.nearly_of_le some (Magnitude.le_sum _ _)
  case output =>
    intro some
    refine ⟨_, floor, base _ _, floorSized, ?_⟩
    rw [Nat.add_zero]
    exact output.nearly_of_le some (Magnitude.le_sum_right _ _)
  case balanced =>
    intro someInput someOutput
    exact ⟨_, floor, base _ _, floorSized,
      Magnitude.sum_nearly floorFinite (halfInput.nearly someInput)
        (halfOutput.nearly someOutput)⟩
  case oneMoreInput =>
    intro small
    apply unapplied_of_le
    rw [floorSized.le_iff (base _ _)]
    exact Nat.le_trans (input.reached small) (Magnitude.le_sum _ _)
  case oneMoreOutput =>
    intro small
    apply unapplied_of_le
    rw [floorSized.le_iff (base _ _)]
    exact Nat.le_trans (output.reached small) (Magnitude.le_sum_right _ _)
  case oneMoreBalanced =>
    intro smallInput smallOutput halves
    apply unapplied_of_le
    have whole : (model.minimumCharge).HasMagnitude (.sum floor.half floor.half) := by
      rw [← halves]
      exact halfSized.add halfSized
    rw [whole.le_iff (base _ _)]
    exact Magnitude.sum_mono (halfInput.reached smallInput) (halfOutput.reached smallOutput)

/-- A model whose estimates all stay below its floor: 600 of its input tokens cost a bit less
than half of it, and so do 150 of its output tokens. -/
def shortModel : Model :=
  { Model.ofPrices "short" (Double.ofDecimal false 25 (-1)) (.ofNat 10) with
    minimum := some (Double.ofDecimal false 3 (-3)) }

theorem estimate_fits_shortModel :
    shortModel.HasAmounts ∧ shortModel.estimate.Unsaturated ∧
      shortModel.estimate = ⟨1200, 300, 600, 150⟩ ∧
      (shortModel.charge 1200 0).NearsMinimum 1125899906842624 0 ∧
      (shortModel.charge 1201 0).minimumApplied = false ∧
      (shortModel.charge 0 301).minimumApplied = false ∧
      (shortModel.charge 601 151).minimumApplied = false := by
  have amounts : shortModel.HasAmounts :=
    ⟨⟨by decide +kernel, by decide +kernel⟩, ⟨by decide +kernel, by decide +kernel⟩,
      ⟨by decide +kernel, by decide +kernel⟩⟩
  have estimated : shortModel.estimate = ⟨1200, 300, 600, 150⟩ := by decide +kernel
  have unsaturated : shortModel.estimate.Unsaturated := by
    rw [estimated]
    exact ⟨by decide, by decide, by decide, by decide⟩
  have fits := estimate_fits amounts unsaturated
  rw [estimated] at fits
  exact ⟨amounts, unsaturated, estimated, fits.input (by decide), fits.oneMoreInput (by decide),
    fits.oneMoreOutput (by decide),
    fits.oneMoreBalanced (by decide) (by decide) (by decide +kernel)⟩

/-- Rounding the counts up is not enough: none of the requests of the estimate reaches the floor. -/
theorem estimate_falls_short :
    shortModel.HasAmounts ∧ shortModel.estimate.Unsaturated ∧
      (let estimate := shortModel.estimate
      ∀ charge ∈ [shortModel.charge estimate.inputOnly 0,
          shortModel.charge 0 estimate.outputOnly,
          shortModel.charge estimate.balancedInput estimate.balancedOutput],
        charge.baseCost.lt shortModel.minimumCharge = true ∧ charge.minimumApplied = true) := by
  refine ⟨⟨⟨?_, ?_⟩, ⟨?_, ?_⟩, ⟨?_, ?_⟩⟩, ⟨?_, ?_, ?_, ?_⟩, ?_⟩ <;> decide +kernel

end Model

end NodeAdmin
