import NodeAdmin.Cost.Charge
import NodeAdmin.Proofs.Double.Nonnegative
import NodeAdmin.Proofs.Double.Order

/-!
# Charges grow with usage

No request is charged less than one with fewer tokens, although every step of the
charge is rounded and a product may be infinite.  A share of a million tokens is
always finite, so that no price of zero meets an infinite share.
-/

namespace NodeAdmin

/-- Whether a double can be a price: a finite number that is at least zero. -/
structure Double.IsPrice (value : Double) : Prop where
  finite : value.isFinite = true
  atLeastZero : Double.zero.le value = true

theorem Double.IsPrice.hasMagnitude {value : Double} (price : value.IsPrice) :
    ∃ magnitude, value.HasMagnitude magnitude ∧ magnitude.IsFinite := by
  obtain ⟨magnitude, sized⟩ := Double.hasMagnitude_of_zero_le price.atLeastZero
  exact ⟨magnitude, sized, sized.isFinite_iff.mp price.finite⟩

/-! ## Tokens -/

/-- The magnitude of a whole number. -/
def Magnitude.ofCount (count : Nat) : Magnitude :=
  ofQuotient (count * Double.unitsPerOne) 1

/-- The magnitude of the share that a number of tokens is of a million. -/
def Magnitude.share (count : Nat) : Magnitude :=
  ofQuotient ((ofCount count).units * Double.unitsPerOne) (ofCount 1000000).units

namespace Magnitude

theorem ofCount_mono {fewer more : Nat} (grows : fewer ≤ more) :
    (ofCount fewer).val ≤ (ofCount more).val :=
  ofQuotient_mono Nat.one_pos (Nat.mul_le_mul_right _ grows)

theorem million_pos : 0 < (ofCount 1000000).units := by decide +kernel

theorem share_mono {fewer more : Nat} (grows : fewer ≤ more) :
    (share fewer).val ≤ (share more).val :=
  ofQuotient_mono million_pos (Nat.mul_le_mul_right _ (units_mono (ofCount_mono grows)))

/-- Every count of 64 bits is finite, and so is its share. -/
theorem ofCount_finite (tokens : UInt64) : (ofCount tokens.toNat).IsFinite := by
  have largest : (ofCount UInt64.size).val < infiniteOrdinal := by decide +kernel
  exact Nat.lt_of_le_of_lt (ofCount_mono (Nat.le_of_lt tokens.toNat_lt)) largest

theorem share_finite (tokens : UInt64) : (share tokens.toNat).IsFinite := by
  have largest : (share UInt64.size).val < infiniteOrdinal := by decide +kernel
  exact Nat.lt_of_le_of_lt (share_mono (Nat.le_of_lt tokens.toNat_lt)) largest

end Magnitude

theorem share_hasMagnitude (tokens : UInt64) :
    (Double.ofUInt64 tokens / tokensPerMillion).HasMagnitude
      (Magnitude.share tokens.toNat) := by
  have million : (Magnitude.ofCount 1000000).IsFinite ∧
      (Magnitude.ofCount 1000000).val ≠ 0 := by
    unfold Magnitude.IsFinite
    decide +kernel
  exact (Double.HasMagnitude.ofNat tokens.toNat).div (Double.HasMagnitude.ofNat 1000000)
    (Magnitude.ofCount_finite tokens) million.1 million.2

/-- The magnitude of the cost of tokens at a price with a magnitude. -/
def Magnitude.cost (count : Nat) (price : Magnitude) : Magnitude :=
  ofQuotient ((share count).units * price.units) Double.unitsPerOne

theorem Magnitude.cost_mono {fewer more : Nat} (grows : fewer ≤ more) (price : Magnitude) :
    (cost fewer price).val ≤ (cost more price).val :=
  ofQuotient_mono Double.unitsPerOne_pos
    (Nat.mul_le_mul_right _ (units_mono (share_mono grows)))

theorem tokenCost_hasMagnitude {price : Double} {magnitude : Magnitude}
    (sized : price.HasMagnitude magnitude) (finite : magnitude.IsFinite)
    (tokens : UInt64) :
    (tokenCost tokens price).HasMagnitude (Magnitude.cost tokens.toNat magnitude) :=
  (share_hasMagnitude tokens).mul sized (Magnitude.share_finite tokens) finite

/-! ## Charges -/

/-- The costs of the usage are numbers. -/
structure Charge.IsNumeric (charge : Charge) : Prop where
  input : charge.inputCost ≠ .nan
  output : charge.outputCost ≠ .nan
  base : charge.baseCost ≠ .nan

/-- Whether no cost of a charge is above that of another one, and the other one does
without the floor if the charge does. -/
structure Charge.AtMost (charge other : Charge) : Prop where
  input : charge.inputCost.le other.inputCost = true
  output : charge.outputCost.le other.outputCost = true
  base : charge.baseCost.le other.baseCost = true
  final : charge.finalCost.le other.finalCost = true
  unapplied : charge.minimumApplied = false → other.minimumApplied = false

/-- A charge follows its usage: what bounds the costs bounds the rest. -/
theorem Charge.AtMost.of_usage {charge other : Charge}
    (input : charge.inputCost.le other.inputCost = true)
    (output : charge.outputCost.le other.outputCost = true)
    (base : charge.baseCost.le other.baseCost = true)
    {minimum : Double} (final : charge.finalCost = charge.baseCost.max minimum)
    (otherFinal : other.finalCost = other.baseCost.max minimum)
    (decided : charge.minimumApplied = charge.baseCost.lt charge.finalCost)
    (otherDecided : other.minimumApplied = other.baseCost.lt other.finalCost) :
    charge.AtMost other := by
  refine ⟨input, output, base, ?_, ?_⟩
  · rw [final, otherFinal]
    exact Double.max_mono base minimum
  · rw [decided, otherDecided, final, otherFinal, Double.lt_max, Double.lt_max]
    intro unapplied
    by_contra applied
    have below := Double.lt_of_le_of_lt base (Bool.eq_true_of_not_eq_false applied)
    rw [unapplied] at below
    cases below

section

variable (model : Model) (inputTokens outputTokens : UInt64)

theorem Model.charge_inputCost :
    (model.charge inputTokens outputTokens).inputCost =
      tokenCost inputTokens model.inputPrice := by
  simp only [charge]

theorem Model.charge_outputCost :
    (model.charge inputTokens outputTokens).outputCost =
      tokenCost outputTokens model.outputPrice := by
  simp only [charge]

theorem Model.charge_baseCost :
    (model.charge inputTokens outputTokens).baseCost =
      tokenCost inputTokens model.inputPrice +
        tokenCost outputTokens model.outputPrice := by
  simp only [charge]

theorem Model.charge_finalCost :
    (model.charge inputTokens outputTokens).finalCost =
      (model.charge inputTokens outputTokens).baseCost.max model.minimumCharge := by
  simp only [charge]

theorem Model.charge_minimumApplied :
    (model.charge inputTokens outputTokens).minimumApplied =
      (model.charge inputTokens outputTokens).baseCost.lt
        (model.charge inputTokens outputTokens).finalCost := by
  simp only [charge]

end

/-- The charge of a model with prices grows with the tokens of a request, and its
costs are always numbers. -/
theorem Model.charge_mono {model : Model} (inputPrice : model.inputPrice.IsPrice)
    (outputPrice : model.outputPrice.IsPrice)
    {fewerInput moreInput fewerOutput moreOutput : UInt64}
    (inputGrows : fewerInput ≤ moreInput) (outputGrows : fewerOutput ≤ moreOutput) :
    (model.charge fewerInput fewerOutput).AtMost (model.charge moreInput moreOutput) ∧
      (model.charge fewerInput fewerOutput).IsNumeric ∧
      (model.charge moreInput moreOutput).IsNumeric := by
  obtain ⟨inputMagnitude, inputSized, inputFinite⟩ := inputPrice.hasMagnitude
  obtain ⟨outputMagnitude, outputSized, outputFinite⟩ := outputPrice.hasMagnitude
  have inputs := tokenCost_hasMagnitude inputSized inputFinite
  have outputs := tokenCost_hasMagnitude outputSized outputFinite
  have bases (inputTokens outputTokens : UInt64) :=
    (inputs inputTokens).add (outputs outputTokens)
  have inputsGrow := Magnitude.cost_mono (UInt64.le_iff_toNat_le.mp inputGrows)
    inputMagnitude
  have outputsGrow := Magnitude.cost_mono (UInt64.le_iff_toNat_le.mp outputGrows)
    outputMagnitude
  have numeric (inputTokens outputTokens : UInt64) :
      (model.charge inputTokens outputTokens).IsNumeric := by
    constructor
    · rw [charge_inputCost]
      exact (inputs inputTokens).ne_nan
    · rw [charge_outputCost]
      exact (outputs outputTokens).ne_nan
    · rw [charge_baseCost]
      exact (bases inputTokens outputTokens).ne_nan
  refine ⟨?_, numeric fewerInput fewerOutput, numeric moreInput moreOutput⟩
  apply Charge.AtMost.of_usage
  · rw [charge_inputCost, charge_inputCost]
    exact ((inputs fewerInput).le_iff (inputs moreInput)).mpr inputsGrow
  · rw [charge_outputCost, charge_outputCost]
    exact ((outputs fewerOutput).le_iff (outputs moreOutput)).mpr outputsGrow
  · rw [charge_baseCost, charge_baseCost]
    exact ((bases fewerInput fewerOutput).le_iff (bases moreInput moreOutput)).mpr
      (Magnitude.sum_mono inputsGrow outputsGrow)
  · exact model.charge_finalCost fewerInput fewerOutput
  · exact model.charge_finalCost moreInput moreOutput
  · exact model.charge_minimumApplied fewerInput fewerOutput
  · exact model.charge_minimumApplied moreInput moreOutput

/-- A model whose input is free and whose output has the largest of all prices, so
that its charges are infinite from some number of tokens on. -/
def dearModel : Model where
  id := "dear"
  name := none
  provider := none
  enabled := true
  inputPrice := .neg .zero
  outputPrice := .number false (Magnitude.ofOrdinal (infiniteOrdinal - 1))
  minimum := some .nan
  contextLength := none

theorem Model.charge_mono_dearModel :
    dearModel.inputPrice.IsPrice ∧ dearModel.outputPrice.IsPrice ∧
      (0 : UInt64) ≤ 18446744073709551615 ∧ (1 : UInt64) ≤ 2000000 ∧
      ((dearModel.charge 0 1).AtMost (dearModel.charge 18446744073709551615 2000000) ∧
        (dearModel.charge 0 1).IsNumeric ∧
        (dearModel.charge 18446744073709551615 2000000).IsNumeric) ∧
      (dearModel.charge 18446744073709551615 2000000).finalCost = .infinity := by
  have inputPrice : dearModel.inputPrice.IsPrice := ⟨by decide, by decide⟩
  have outputPrice : dearModel.outputPrice.IsPrice := ⟨by decide, by decide⟩
  have inputGrows : (0 : UInt64) ≤ 18446744073709551615 := by decide
  have outputGrows : (1 : UInt64) ≤ 2000000 := by decide
  refine ⟨inputPrice, outputPrice, inputGrows, outputGrows, ?_, by decide +kernel⟩
  exact charge_mono inputPrice outputPrice inputGrows outputGrows

end NodeAdmin
