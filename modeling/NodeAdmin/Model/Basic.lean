import NodeAdmin.Double.Text

/-!
# Models

A model that the node sells, with its prices per million tokens and the floor
charge of a request.
-/

namespace NodeAdmin

structure Model where
  id : String
  name : Option String
  provider : Option String
  enabled : Bool
  inputPrice : Double
  outputPrice : Double
  minimum : Option Double
  contextLength : Option Int64
  deriving DecidableEq, Repr

namespace Model

/-- A model of which only the prices are known. -/
def ofPrices (id : String) (inputPrice outputPrice : Double) : Model where
  id := id
  name := none
  provider := none
  enabled := true
  inputPrice := inputPrice
  outputPrice := outputPrice
  minimum := none
  contextLength := none

/-- The name, or the id of a model without a name. -/
def displayName (model : Model) : String :=
  match model.name with
  | some name => if name.isEmpty then model.id else name
  | none => model.id

/-- The floor charge; a model without one has a floor of zero. -/
def minimumCharge (model : Model) : Double := model.minimum.getD Double.zero

/-- The context length when it can be used, that is, when it is positive. -/
def contextWindow (model : Model) : Option UInt64 :=
  match model.contextLength with
  | some length => if 0 < length then some length.toUInt64 else none
  | none => none

def negativeIssue (id field : String) (value : Double) : List String :=
  if value.lt Double.zero then
    [s!"Model '{id}': negative {field} {value.plainText}"]
  else []

/-- What an operator should know about the prices. Nothing here is refused. -/
def pricingIssues (model : Model) : List String :=
  let context := match model.contextLength with
    | some length =>
        if length ≤ 0 then
          [s!"Model '{model.id}': contextLength is {length.toInt}, " ++
            "using the 1000-token default"]
        else []
    | none => []
  negativeIssue model.id "input_cost" model.inputPrice ++
    negativeIssue model.id "output_cost" model.outputPrice ++
    negativeIssue model.id "min_cost_per_request" model.minimumCharge ++ context

end Model

end NodeAdmin
