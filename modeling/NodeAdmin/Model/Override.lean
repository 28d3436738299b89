import NodeAdmin.Cost.PriceUnit
import NodeAdmin.Model.Basic

/-!
# Overrides

Changes to a model. What an override leaves open keeps the value of the model.
-/

namespace NodeAdmin

structure ModelOverride where
  name : Option String
  enabled : Option Bool
  inputPrice : Option Double
  outputPrice : Option Double
  minimum : Option Double
  deriving DecidableEq, Repr

namespace ModelOverride

def empty : ModelOverride := ⟨none, none, none, none, none⟩

/-- New prices in the unit that the operator typed them in; the floor has no
unit. -/
def ofPrices (inputPrice outputPrice minimum : Option Double) (unit : PriceUnit) :
    ModelOverride :=
  { empty with
    inputPrice := inputPrice.map unit.toPerMillion
    outputPrice := outputPrice.map unit.toPerMillion
    minimum := minimum }

/-- Whether the override changes nothing. -/
def isEmpty (change : ModelOverride) : Bool :=
  change.name.isNone && change.enabled.isNone && change.inputPrice.isNone &&
    change.outputPrice.isNone && change.minimum.isNone

end ModelOverride

/-- The model with the changes of an override. -/
def Model.apply (model : Model) (change : ModelOverride) : Model :=
  { model with
    name := change.name <|> model.name
    enabled := change.enabled.getD model.enabled
    inputPrice := change.inputPrice.getD model.inputPrice
    outputPrice := change.outputPrice.getD model.outputPrice
    minimum := change.minimum <|> model.minimum }

end NodeAdmin
