import NodeAdmin.Cost.PriceUnit
import NodeAdmin.Model.Basic

/-!
# Charges

The charge of a request is what its tokens cost, but never less than the floor
of the model. The floor is applied to the charge and never used to refuse a
request.
-/

namespace NodeAdmin

/-- The charge of one request. -/
structure Charge where
  inputCost : Double
  outputCost : Double
  baseCost : Double
  minimum : Double
  finalCost : Double
  minimumApplied : Bool
  deriving DecidableEq, Repr

/-- What a number of tokens costs at a price per million. -/
def tokenCost (tokens : UInt64) (price : Double) : Double :=
  Double.ofUInt64 tokens / tokensPerMillion * price

/-- The charge of a request with so many input and output tokens. -/
def Model.charge (model : Model) (inputTokens outputTokens : UInt64) : Charge :=
  let inputCost := tokenCost inputTokens model.inputPrice
  let outputCost := tokenCost outputTokens model.outputPrice
  let baseCost := inputCost + outputCost
  let finalCost := baseCost.max model.minimumCharge
  { inputCost := inputCost
    outputCost := outputCost
    baseCost := baseCost
    minimum := model.minimumCharge
    finalCost := finalCost
    minimumApplied := baseCost.lt finalCost }

/-- The verdict on a request, which is always accepted. -/
structure Validation where
  isValid : Bool
  actualCost : Double
  minimumCost : Double
  message : Option String
  deriving DecidableEq, Repr

/-- The verdict that goes with a charge; it has a message when the floor was
applied. -/
def Charge.validation (charge : Charge) : Validation where
  isValid := true
  actualCost := charge.finalCost
  minimumCost := charge.minimum
  message :=
    if charge.minimumApplied then
      some s!"Minimum charge of ${charge.minimum.fixedText 6} applied"
    else none

def Model.validate (model : Model) (inputTokens outputTokens : UInt64) : Validation :=
  (model.charge inputTokens outputTokens).validation

/-- Token counts that reach the floor of a model on their own, and halves that
reach it together. -/
structure MinimumEstimate where
  inputOnly : UInt64
  outputOnly : UInt64
  balancedInput : UInt64
  balancedOutput : UInt64
  deriving DecidableEq, Repr

/-- The number of tokens that reach a cost, rounded up; without a positive price
no number does. -/
def tokensForCost (cost price : Double) : UInt64 :=
  if price.isPositive then (cost * tokensPerMillion / price).ceil.toUInt64 else 0

def Model.estimate (model : Model) : MinimumEstimate :=
  let minimum := model.minimumCharge
  if minimum.le Double.zero then ⟨0, 0, 0, 0⟩
  else
    let half := minimum / Double.ofNat 2
    { inputOnly := tokensForCost minimum model.inputPrice
      outputOnly := tokensForCost minimum model.outputPrice
      balancedInput := tokensForCost half model.inputPrice
      balancedOutput := tokensForCost half model.outputPrice }

/-- The floor that suits a context window: a request that fills the window, and
at least one of 100 tokens. Without a window it is a request of 1000 tokens. -/
def recommendedMinimum (contextWindow : Option UInt64) (inputPrice : Double) : Double :=
  match contextWindow with
  | some length =>
      if 0 < length then
        (tokenCost length inputPrice).max (tokenCost 100 inputPrice)
      else tokenCost 1000 inputPrice
  | none => tokenCost 1000 inputPrice

def Model.recommendedMinimum (model : Model) : Double :=
  NodeAdmin.recommendedMinimum model.contextWindow model.inputPrice

end NodeAdmin
