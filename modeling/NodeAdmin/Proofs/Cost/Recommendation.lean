import NodeAdmin.Proofs.Cost.Usage

/-!
# Recommended floors

The recommended floor of a model is what a certain number of input tokens costs, to the last
bit: the larger of two rounded costs is the rounded cost of the larger number of tokens.  No
request with that many input tokens has the floor applied.
-/

namespace NodeAdmin

/-! ## Signs -/

namespace Double

variable {leftSign rightSign negative : Bool} {left right result : Magnitude}

theorem sign_mul
    (product : number leftSign left * number rightSign right = number negative result) :
    negative = (leftSign != rightSign) := by
  change mul _ _ = _ at product
  unfold mul at product
  dsimp only at product
  split at product
  · split at product
    · cases product
    · cases product
      rfl
  · cases product
    rfl

theorem sign_div
    (quotient : number leftSign left / number rightSign right = number negative result) :
    negative = (leftSign != rightSign) := by
  change div _ _ = _ at quotient
  unfold div at quotient
  dsimp only at quotient
  split at quotient
  · split at quotient
    · cases quotient
    · cases quotient
      rfl
  · split at quotient
    · cases quotient
      rfl
    · split at quotient
      · split at quotient
        · cases quotient
        · cases quotient
          rfl
      · cases quotient
        rfl

end Double

/-- A cost has the sign of the price. -/
theorem tokenCost_eq {negative : Bool} {magnitude : Magnitude}
    (price : (Double.number negative magnitude).IsPrice) (tokens : UInt64) :
    tokenCost tokens (.number negative magnitude) =
      .number negative (Magnitude.cost tokens.toNat magnitude) := by
  obtain ⟨shareSign, share, -⟩ := share_hasMagnitude tokens
  have unsigned : shareSign = false := Double.sign_div share
  obtain ⟨_, sized, finite⟩ := price.hasMagnitude
  obtain ⟨costSign, cost, -⟩ := tokenCost_hasMagnitude sized finite tokens
  obtain ⟨_, same, -⟩ := sized
  cases same
  rw [cost]
  rw [tokenCost, share, unsigned] at cost
  rw [Double.sign_mul cost, Bool.false_bne]

/-! ## The larger of two costs -/

theorem tokenCost_mono {price : Double} (isPrice : price.IsPrice) {fewer more : UInt64}
    (grows : fewer ≤ more) : (tokenCost fewer price).le (tokenCost more price) = true := by
  obtain ⟨magnitude, sized, finite⟩ := isPrice.hasMagnitude
  have costs := tokenCost_hasMagnitude sized finite
  rw [(costs fewer).le_iff (costs more)]
  exact Magnitude.cost_mono (UInt64.le_iff_toNat_le.mp grows) magnitude

/-- Two costs that are equal are the same double, since they have the same sign. -/
theorem tokenCost_antisymm {price : Double} (isPrice : price.IsPrice) {left right : UInt64}
    (atMost : (tokenCost left price).le (tokenCost right price) = true)
    (atLeast : (tokenCost right price).le (tokenCost left price) = true) :
    tokenCost left price = tokenCost right price := by
  obtain ⟨magnitude, sized, finite⟩ := isPrice.hasMagnitude
  have costs := tokenCost_hasMagnitude sized finite
  have same : Magnitude.cost left.toNat magnitude = Magnitude.cost right.toNat magnitude :=
    Fin.ext (Nat.le_antisymm (((costs left).le_iff (costs right)).mp atMost)
      (((costs right).le_iff (costs left)).mp atLeast))
  obtain ⟨negative, rfl, -⟩ := sized
  rw [tokenCost_eq isPrice, tokenCost_eq isPrice, same]

theorem tokenCost_ne_nan {price : Double} (isPrice : price.IsPrice) (tokens : UInt64) :
    tokenCost tokens price ≠ .nan := by
  obtain ⟨magnitude, sized, finite⟩ := isPrice.hasMagnitude
  exact (tokenCost_hasMagnitude sized finite tokens).ne_nan

theorem tokenCost_max {price : Double} (isPrice : price.IsPrice) (left right : UInt64) :
    (tokenCost left price).max (tokenCost right price) = tokenCost (max left right) price := by
  have leftNumber := tokenCost_ne_nan isPrice left
  have rightNumber := tokenCost_ne_nan isPrice right
  rw [Double.max_of_numbers leftNumber rightNumber]
  change _ = tokenCost (if left ≤ right then right else left) price
  -- Where the costs of fewer and more tokens are equal, either operand is the same double.
  by_cases fewer : left ≤ right
  · rw [if_pos fewer]
    cases below : (tokenCost left price).lt (tokenCost right price) with
    | true => rw [if_pos rfl]
    | false =>
        rw [if_neg Bool.false_ne_true]
        exact tokenCost_antisymm isPrice (tokenCost_mono isPrice fewer)
          (Double.le_of_not_lt leftNumber rightNumber below)
  · have more : right ≤ left := UInt64.le_of_lt (UInt64.not_le.mp fewer)
    have notBelow : (tokenCost left price).lt (tokenCost right price) = false := by
      rw [← Bool.not_eq_true]
      intro below
      have beneath := Double.lt_of_le_of_lt (tokenCost_mono isPrice more) below
      rw [Double.lt_irrefl] at beneath
      cases beneath
    rw [if_neg fewer, notBelow, if_neg Bool.false_ne_true]

/-! ## Floors -/

namespace Model

/-- How many input tokens cost the recommended floor of a model. -/
def floorTokens (model : Model) : UInt64 :=
  match model.contextLength with
  | some length => if 0 < length then max length.toUInt64 100 else 1000
  | none => 1000

theorem toUInt64_pos {length : Int64} (positive : 0 < length) : 0 < length.toUInt64 := by
  apply UInt64.pos_iff_ne_zero.mpr
  intro zero
  rw [← length.toInt64_toUInt64, zero] at positive
  exact absurd positive (by decide)

theorem recommendedMinimum_eq {model : Model} (isPrice : model.inputPrice.IsPrice) :
    model.recommendedMinimum = tokenCost model.floorTokens model.inputPrice := by
  unfold recommendedMinimum NodeAdmin.recommendedMinimum contextWindow floorTokens
  cases model.contextLength with
  | none => rfl
  | some length =>
      by_cases positive : 0 < length
      · simp only [if_pos positive, if_pos (toUInt64_pos positive)]
        exact tokenCost_max isPrice length.toUInt64 100
      · simp only [if_neg positive]

end Model

theorem Magnitude.le_sum (left right : Magnitude) : left.val ≤ (sum left right).val := by
  unfold sum
  split
  · exact val_le_infinite left
  · calc
      left.val = (ofQuotient left.units 1).val := by rw [ofQuotient_units]
      _ ≤ (ofQuotient (left.units + right.units) 1).val :=
        ofQuotient_mono Nat.one_pos (Nat.le_add_right _ _)

/-- The floor of a model suits its prices: it is the recommended one, some number of input
tokens costs just that, and no request with that many input tokens is raised to it. -/
structure Model.FloorFits (model : Model) : Prop where
  recommended : model.minimum = some model.recommendedMinimum
  charged : ∀ outputTokens,
    model.recommendedMinimum = (model.charge model.floorTokens outputTokens).inputCost
  unapplied : ∀ inputTokens outputTokens, model.floorTokens ≤ inputTokens →
    (model.charge inputTokens outputTokens).minimumApplied = false

theorem Model.floorFits {model : Model} (inputPrice : model.inputPrice.IsPrice)
    (outputPrice : model.outputPrice.IsPrice)
    (recommended : model.minimum = some model.recommendedMinimum) : model.FloorFits := by
  have floor := recommendedMinimum_eq inputPrice
  have unraised : (model.charge model.floorTokens 0).minimumApplied = false := by
    obtain ⟨inputMagnitude, inputSized, inputFinite⟩ := inputPrice.hasMagnitude
    obtain ⟨outputMagnitude, outputSized, outputFinite⟩ := outputPrice.hasMagnitude
    have input := tokenCost_hasMagnitude inputSized inputFinite model.floorTokens
    have base := input.add (tokenCost_hasMagnitude outputSized outputFinite 0)
    have atMost := (input.le_iff base).mpr (Magnitude.le_sum _ _)
    rw [charge_minimumApplied, charge_finalCost, Double.lt_max, charge_baseCost,
      minimumCharge, recommended, Option.getD_some, floor, ← Bool.not_eq_true]
    intro below
    have beneath := Double.lt_of_le_of_lt atMost below
    rw [Double.lt_irrefl] at beneath
    cases beneath
  refine ⟨recommended, ?_, ?_⟩
  · intro outputTokens
    rw [charge_inputCost, floor]
  · intro inputTokens outputTokens more
    have grows := charge_mono inputPrice outputPrice more (UInt64.zero_le : 0 ≤ outputTokens)
    exact grows.1.unapplied unraised

end NodeAdmin
