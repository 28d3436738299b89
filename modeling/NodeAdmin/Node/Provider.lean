import NodeAdmin.Json.Decode

/-!
# Providers

The services that a node buys from.
-/

namespace NodeAdmin

open Json

structure Provider where
  id : Int64
  kind : String
  baseUrl : String
  enabled : Bool
  /-- Masked by the node. -/
  apiKey : Option String
  fee : Option Double
  deriving DecidableEq, Repr

namespace Provider

/-- An empty key counts as none. -/
def hasApiKey (provider : Provider) : Bool :=
  match provider.apiKey with
  | some key => !key.isEmpty
  | none => false

/-- The fields of a provider that were read so far. -/
structure Draft where
  id : Option Int64
  kind : Option String
  baseUrl : Option String
  enabled : Option Bool
  apiKey : Option (Option String)
  fee : Option (Option Double)

def shape : RecordShape Draft Provider where
  fields :=
    [ .slot ["id"] (·.id)
        (fun value draft => { draft with id := some value }) Decode.int64,
      .slot ["provider_type"] (·.kind)
        (fun value draft => { draft with kind := some value }) Decode.string,
      .slot ["base_url"] (·.baseUrl)
        (fun value draft => { draft with baseUrl := some value }) Decode.string,
      .slot ["enabled"] (·.enabled)
        (fun value draft => { draft with enabled := some value }) Decode.bool,
      .slot ["api_key"] (·.apiKey)
        (fun value draft => { draft with apiKey := some value })
        (Decode.optional Decode.string),
      .slot ["provider_fee"] (·.fee)
        (fun value draft => { draft with fee := some value })
        (Decode.optional Decode.double) ]
  empty := ⟨none, none, none, none, none, none⟩
  finish draft := do
    let id ← draft.id
    let kind ← draft.kind
    let baseUrl ← draft.baseUrl
    some
      { id := id
        kind := kind
        baseUrl := baseUrl
        enabled := draft.enabled.getD true
        apiKey := draft.apiKey.join
        fee := draft.fee.join }

def decode : Decoder Provider := shape.decode

/-- A list of providers, bare or wrapped. -/
def decodeList : Decoder (List Provider) := listOrWrapped "providers" decode

def toJson (provider : Provider) : Json :=
  .object
    ([("id", .integer provider.id.toInt), ("provider_type", .string provider.kind),
      ("base_url", .string provider.baseUrl), ("enabled", .bool provider.enabled)] ++
      optional "api_key" (provider.apiKey.map .string) ++
      optional "provider_fee" (provider.fee.map .float))

end Provider

end NodeAdmin
