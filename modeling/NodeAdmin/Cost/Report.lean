import NodeAdmin.Cost.Amount
import NodeAdmin.Model.Document

/-!
# Cost reports

Everything that is shown for one priced request.
-/

namespace NodeAdmin

structure CostReport where
  model : Model
  inputTokens : UInt64
  outputTokens : UInt64
  charge : Charge
  breakdown : String
  validation : Validation
  estimate : MinimumEstimate
  recommendedMinimum : Double
  deriving DecidableEq, Repr

namespace CostReport

/-- The report on a request to a model. -/
def build (model : Model) (inputTokens outputTokens : UInt64) : CostReport :=
  let charge := model.charge inputTokens outputTokens
  { model := model
    inputTokens := inputTokens
    outputTokens := outputTokens
    charge := charge
    breakdown := Amount.breakdown charge
    validation := model.validate inputTokens outputTokens
    estimate := model.estimate
    recommendedMinimum := model.recommendedMinimum }

end CostReport

def countJson (count : UInt64) : Json := .integer count.toNat

def Charge.toJson (charge : Charge) : Json :=
  .object
    [("input_cost", .float charge.inputCost), ("output_cost", .float charge.outputCost),
      ("base_cost", .float charge.baseCost),
      ("min_cost_per_request", .float charge.minimum),
      ("final_cost", .float charge.finalCost),
      ("is_minimum_applied", .bool charge.minimumApplied)]

def Validation.toJson (validation : Validation) : Json :=
  .object
    ([("is_valid", .bool validation.isValid),
      ("actual_cost", .float validation.actualCost),
      ("minimum_cost", .float validation.minimumCost)] ++
      Json.optional "message" (validation.message.map .string))

def MinimumEstimate.toJson (estimate : MinimumEstimate) : Json :=
  .object
    [("input_tokens_only", countJson estimate.inputOnly),
      ("output_tokens_only", countJson estimate.outputOnly),
      ("balanced_tokens", .object
        [("input", countJson estimate.balancedInput),
          ("output", countJson estimate.balancedOutput)])]

def CostReport.toJson (report : CostReport) : Json :=
  .object
    [("model", report.model.toJson), ("input_tokens", countJson report.inputTokens),
      ("output_tokens", countJson report.outputTokens),
      ("result", report.charge.toJson), ("breakdown", .string report.breakdown),
      ("validation", report.validation.toJson),
      ("minimum_tokens", report.estimate.toJson),
      ("recommended_min_cost", .float report.recommendedMinimum)]

end NodeAdmin
