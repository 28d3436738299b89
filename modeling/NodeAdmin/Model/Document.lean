import NodeAdmin.Json.Decode
import NodeAdmin.Model.Catalog
import NodeAdmin.Model.Override
import NodeAdmin.Word.Bounds

/-!
# Models in JSON documents

A model needs an id and nothing else. Its context length may be any value:
numbers are cut to whole 64-bit numbers and anything else counts as absent.
-/

namespace NodeAdmin

open Json

/-- The context length that a value stands for. -/
def contextLengthOf : Json → Option Int64
  | .integer value =>
      if value < Word.signedBound64 then some (Int64.ofInt value)
      else some (Double.ofInt value).toInt64
  | .float value => some value.toInt64
  | _ => none

def decodeContextLength : Decoder (Option Int64) := fun site tree =>
  (Decode.optional Decode.json site tree).map fun value => value.bind contextLengthOf

namespace Model

/-- The fields of a model that were read so far. -/
structure Draft where
  id : Option String
  name : Option (Option String)
  provider : Option (Option String)
  enabled : Option Bool
  inputPrice : Option Double
  outputPrice : Option Double
  minimum : Option (Option Double)
  contextLength : Option (Option Int64)

def shape : RecordShape Draft Model where
  fields :=
    [ .slot ["id"] (·.id)
        (fun value draft => { draft with id := some value }) Decode.string,
      .slot ["name"] (·.name)
        (fun value draft => { draft with name := some value })
        (Decode.optional Decode.string),
      .slot ["provider"] (·.provider)
        (fun value draft => { draft with provider := some value })
        (Decode.optional Decode.string),
      .slot ["enabled"] (·.enabled)
        (fun value draft => { draft with enabled := some value }) Decode.bool,
      .slot ["input_cost"] (·.inputPrice)
        (fun value draft => { draft with inputPrice := some value }) Decode.double,
      .slot ["output_cost"] (·.outputPrice)
        (fun value draft => { draft with outputPrice := some value }) Decode.double,
      .slot ["min_cost_per_request"] (·.minimum)
        (fun value draft => { draft with minimum := some value })
        (Decode.optional Decode.double),
      .slot ["contextLength", "context_length"] (·.contextLength)
        (fun value draft => { draft with contextLength := some value })
        decodeContextLength ]
  empty := ⟨none, none, none, none, none, none, none, none⟩
  finish draft := draft.id.map fun id =>
    { id := id
      name := draft.name.join
      provider := draft.provider.join
      enabled := draft.enabled.getD true
      inputPrice := draft.inputPrice.getD Double.zero
      outputPrice := draft.outputPrice.getD Double.zero
      minimum := draft.minimum.join
      contextLength := draft.contextLength.join }

def decode : Decoder Model := shape.decode

/-- A list of models, bare or wrapped. -/
def decodeList : Decoder (List Model) := listOrWrapped "models" decode

def toJson (model : Model) : Json :=
  .object
    ([("id", .string model.id)] ++
      optional "name" (model.name.map .string) ++
      optional "provider" (model.provider.map .string) ++
      [("enabled", .bool model.enabled), ("input_cost", .float model.inputPrice),
        ("output_cost", .float model.outputPrice)] ++
      optional "min_cost_per_request" (model.minimum.map .float) ++
      optional "contextLength"
        (model.contextLength.map fun length => .integer length.toInt))

end Model

namespace ModelOverride

/-- The fields of an override that were read so far. -/
structure Draft where
  name : Option (Option String)
  enabled : Option (Option Bool)
  inputPrice : Option (Option Double)
  outputPrice : Option (Option Double)
  minimum : Option (Option Double)

def shape : RecordShape Draft ModelOverride where
  fields :=
    [ .slot ["name"] (·.name)
        (fun value draft => { draft with name := some value })
        (Decode.optional Decode.string),
      .slot ["enabled"] (·.enabled)
        (fun value draft => { draft with enabled := some value })
        (Decode.optional Decode.bool),
      .slot ["input_cost"] (·.inputPrice)
        (fun value draft => { draft with inputPrice := some value })
        (Decode.optional Decode.double),
      .slot ["output_cost"] (·.outputPrice)
        (fun value draft => { draft with outputPrice := some value })
        (Decode.optional Decode.double),
      .slot ["min_cost_per_request"] (·.minimum)
        (fun value draft => { draft with minimum := some value })
        (Decode.optional Decode.double) ]
  empty := ⟨none, none, none, none, none⟩
  finish draft := some
    { name := draft.name.join
      enabled := draft.enabled.join
      inputPrice := draft.inputPrice.join
      outputPrice := draft.outputPrice.join
      minimum := draft.minimum.join }

def decode : Decoder ModelOverride := shape.decode

def toJson (change : ModelOverride) : Json :=
  .object
    (optional "name" (change.name.map .string) ++
      optional "enabled" (change.enabled.map .bool) ++
      optional "input_cost" (change.inputPrice.map .float) ++
      optional "output_cost" (change.outputPrice.map .float) ++
      optional "min_cost_per_request" (change.minimum.map .float))

end ModelOverride

def ProviderGroup.toJson (group : ProviderGroup) : Json :=
  .object
    [("provider", .string group.provider),
      ("models", .array (group.models.map Model.toJson))]

end NodeAdmin
