import NodeAdmin.Model.Document
import NodeAdmin.Node.Balance
import NodeAdmin.Node.Provider
import NodeAdmin.Proofs.Json.Records

/-!
# Round trips of node records

Models, overrides, providers and balances are read back from the texts that are written for
them, compact or indented.
-/

namespace NodeAdmin

open Json

/-- Whether a decoder finds a value in both texts of what is written for it. -/
def RoundTrips {α : Type} (decoder : Decoder α) (write : α → Json) (value : α) : Prop :=
  decodeText decoder (write value).compact = .ok value ∧
    decodeText decoder (write value).pretty = .ok value

theorem roundTrips_of_tree {α : Type} {decoder : Decoder α} {write : α → Json} {value : α}
    (read : decoder ⟨0, .malformed⟩ (write value).document.tree = .ok value) :
    RoundTrips decoder write value := by
  constructor
  · rw [decodeText_compact, read]
  · rw [decodeText_pretty, read]

variable {site : Site}

/-! ## Models -/

structure Model.ReadsBack (model : Model) : Prop where
  inputPrice : model.inputPrice.ReadsBack
  outputPrice : model.outputPrice.ReadsBack
  minimum : ∀ minimum ∈ model.minimum, minimum.ReadsBack

/-- A whole number of 64 bits is kept as a context length, whatever its sign. -/
theorem decode_contextLength (length : Int64) :
    decodeContextLength site (integer length.toInt).document.tree = .ok (some length) := by
  have signed := isSigned64_toInt length
  have bounded : length.toInt < Word.signedBound64 := by
    rw [isSigned64_iff] at signed
    exact signed.2
  have read : Decode.json site (integer length.toInt).document.tree =
      .ok (integer length.toInt) := by
    rw [tree_integer (.inl signed)]
    rfl
  rw [decodeContextLength, decode_optional (by rintro ⟨⟩) read]
  simp only [Except.map, Option.bind, contextLengthOf, if_pos bounded, Int64.ofInt_toInt]

theorem Model.decode_toJson {model : Model} (readsBack : model.ReadsBack)
    (shallow : site.level + 1 < depthLimit) :
    Model.decode site model.toJson.document.tree = .ok model := by
  obtain ⟨id, name, provider, enabled, inputPrice, outputPrice, minimum, contextLength⟩ := model
  have ids := Fills.slot site.inner shape "id"
    (fun id => ⟨id, none, none, none, none, none, none, none⟩)
    rfl rfl (fun _ => rfl) (decode_string id)
  have names := Fills.optional site.inner shape "name"
    (fun name => ⟨some id, name, none, none, none, none, none, none⟩) name
    rfl rfl (fun _ => rfl) fun name _ => decode_optional nofun (decode_string name)
  have providers := Fills.optional site.inner shape "provider"
    (fun provider => ⟨some id, name.map some, provider, none, none, none, none, none⟩) provider
    rfl rfl (fun _ => rfl) fun provider _ => decode_optional nofun (decode_string provider)
  have switches := Fills.slot site.inner shape "enabled"
    (fun enabled =>
      ⟨some id, name.map some, provider.map some, enabled, none, none, none, none⟩)
    rfl rfl (fun _ => rfl) (decode_bool enabled)
  have inputPrices := Fills.slot site.inner shape "input_cost"
    (fun inputPrice =>
      ⟨some id, name.map some, provider.map some, some enabled, inputPrice, none, none, none⟩)
    rfl rfl (fun _ => rfl) (decode_double readsBack.inputPrice)
  have outputPrices := Fills.slot site.inner shape "output_cost"
    (fun outputPrice =>
      ⟨some id, name.map some, provider.map some, some enabled, some inputPrice, outputPrice,
        none, none⟩)
    rfl rfl (fun _ => rfl) (decode_double readsBack.outputPrice)
  have minimums := Fills.optional site.inner shape "min_cost_per_request"
    (fun minimum =>
      ⟨some id, name.map some, provider.map some, some enabled, some inputPrice,
        some outputPrice, minimum, none⟩) minimum
    rfl rfl (fun _ => rfl) fun minimum present =>
      decode_optional nofun (decode_double (readsBack.minimum minimum present))
  have contextLengths := Fills.optional site.inner shape "contextLength"
    (fun contextLength =>
      ⟨some id, name.map some, provider.map some, some enabled, some inputPrice,
        some outputPrice, minimum.map some, contextLength⟩) contextLength
    rfl rfl (fun _ => rfl) fun length _ => decode_contextLength length
  -- The members as they are written, each filling its own slot of the draft.
  have fills := ((((ids.append names).append providers).append
    (switches.append (inputPrices.append outputPrices))).append minimums).append contextLengths
  apply decode_record shallow fills
  simp only [shape, Option.map_some, Option.getD_some, join_map_some]

/-! ## Overrides -/

structure ModelOverride.ReadsBack (change : ModelOverride) : Prop where
  inputPrice : ∀ price ∈ change.inputPrice, price.ReadsBack
  outputPrice : ∀ price ∈ change.outputPrice, price.ReadsBack
  minimum : ∀ minimum ∈ change.minimum, minimum.ReadsBack

/-- The override as JSON can hold it: what sets an infinity or not-a-number sets nothing. -/
def ModelOverride.finitePart (change : ModelOverride) : ModelOverride :=
  { change with
    inputPrice := change.inputPrice.filter Double.isFinite
    outputPrice := change.outputPrice.filter Double.isFinite
    minimum := change.minimum.filter Double.isFinite }

/-- Whether an override sets finite numbers only. -/
structure ModelOverride.IsFinite (change : ModelOverride) : Prop where
  inputPrice : ∀ price ∈ change.inputPrice, price.isFinite = true
  outputPrice : ∀ price ∈ change.outputPrice, price.isFinite = true
  minimum : ∀ minimum ∈ change.minimum, minimum.isFinite = true

theorem filter_isFinite_eq_iff (value : Option Double) :
    value.filter Double.isFinite = value ↔ ∀ number ∈ value, number.isFinite = true := by
  cases value with
  | none => simp
  | some number => cases finite : number.isFinite <;> simp [Option.filter, finite]

theorem ModelOverride.finitePart_eq_iff (change : ModelOverride) :
    change.finitePart = change ↔ change.IsFinite := by
  obtain ⟨name, enabled, inputPrice, outputPrice, minimum⟩ := change
  simp only [finitePart, mk.injEq, true_and, filter_isFinite_eq_iff]
  constructor
  · rintro ⟨input, output, floor⟩
    exact ⟨input, output, floor⟩
  · rintro ⟨input, output, floor⟩
    exact ⟨input, output, floor⟩

/-- An override is read back as far as JSON can hold it. -/
theorem ModelOverride.decode_toJson_finitePart {change : ModelOverride}
    (readsBack : change.finitePart.ReadsBack) (shallow : site.level + 1 < depthLimit) :
    ModelOverride.decode site change.toJson.document.tree = .ok change.finitePart := by
  obtain ⟨name, enabled, inputPrice, outputPrice, minimum⟩ := change
  let written : Option Double → Option (Option Double) :=
    Option.map fun number => if number.isFinite then some number else none
  have names := Fills.optional site.inner shape "name"
    (fun name => ⟨name, none, none, none, none⟩) name
    rfl rfl (fun _ => rfl) fun name _ => decode_optional nofun (decode_string name)
  have switches := Fills.optional site.inner shape "enabled"
    (fun enabled => ⟨name.map some, enabled, none, none, none⟩) enabled
    rfl rfl (fun _ => rfl) fun enabled _ => decode_optional nofun (decode_bool enabled)
  have inputPrices := Fills.optionalDouble site.inner shape "input_cost"
    (fun inputPrice => ⟨name.map some, enabled.map some, inputPrice, none, none⟩) inputPrice
    rfl rfl (fun _ => rfl) readsBack.inputPrice
  have outputPrices := Fills.optionalDouble site.inner shape "output_cost"
    (fun outputPrice =>
      ⟨name.map some, enabled.map some, written inputPrice, outputPrice, none⟩) outputPrice
    rfl rfl (fun _ => rfl) readsBack.outputPrice
  have minimums := Fills.optionalDouble site.inner shape "min_cost_per_request"
    (fun minimum =>
      ⟨name.map some, enabled.map some, written inputPrice, written outputPrice, minimum⟩)
    minimum rfl rfl (fun _ => rfl) readsBack.minimum
  have fills :=
    (((names.append switches).append inputPrices).append outputPrices).append minimums
  apply decode_record shallow fills
  simp only [shape, join_map_some, join_map_finite, written, finitePart]

theorem ModelOverride.decode_toJson {change : ModelOverride} (readsBack : change.ReadsBack)
    (shallow : site.level + 1 < depthLimit) :
    ModelOverride.decode site change.toJson.document.tree = .ok change := by
  have whole : change.finitePart = change := by
    rw [change.finitePart_eq_iff]
    exact ⟨fun price member => (readsBack.inputPrice price member).isFinite,
      fun price member => (readsBack.outputPrice price member).isFinite,
      fun minimum member => (readsBack.minimum minimum member).isFinite⟩
  rw [← whole] at readsBack
  rw [decode_toJson_finitePart readsBack shallow, whole]

/-! ## Providers -/

theorem Provider.decode_toJson {provider : Provider}
    (readsBack : ∀ fee ∈ provider.fee, fee.ReadsBack) (shallow : site.level + 1 < depthLimit) :
    Provider.decode site provider.toJson.document.tree = .ok provider := by
  obtain ⟨id, kind, baseUrl, enabled, apiKey, fee⟩ := provider
  have ids := Fills.slot site.inner shape "id" (fun id => ⟨id, none, none, none, none, none⟩)
    rfl rfl (fun _ => rfl) (decode_int64 id)
  have kinds := Fills.slot site.inner shape "provider_type"
    (fun kind => ⟨some id, kind, none, none, none, none⟩)
    rfl rfl (fun _ => rfl) (decode_string kind)
  have baseUrls := Fills.slot site.inner shape "base_url"
    (fun baseUrl => ⟨some id, some kind, baseUrl, none, none, none⟩)
    rfl rfl (fun _ => rfl) (decode_string baseUrl)
  have switches := Fills.slot site.inner shape "enabled"
    (fun enabled => ⟨some id, some kind, some baseUrl, enabled, none, none⟩)
    rfl rfl (fun _ => rfl) (decode_bool enabled)
  have apiKeys := Fills.optional site.inner shape "api_key"
    (fun apiKey => ⟨some id, some kind, some baseUrl, some enabled, apiKey, none⟩) apiKey
    rfl rfl (fun _ => rfl) fun apiKey _ => decode_optional nofun (decode_string apiKey)
  have fees := Fills.optional site.inner shape "provider_fee"
    (fun fee => ⟨some id, some kind, some baseUrl, some enabled, apiKey.map some, fee⟩) fee
    rfl rfl (fun _ => rfl) fun fee present =>
      decode_optional nofun (decode_double (readsBack fee present))
  have fills := ((ids.append (kinds.append (baseUrls.append switches))).append apiKeys).append fees
  apply decode_record shallow fills
  simp only [shape, Option.getD_some, join_map_some]
  rfl

/-! ## Balances -/

theorem MintBalance.decode_toJson (balance : MintBalance) (shallow : site.level + 1 < depthLimit) :
    MintBalance.decode site balance.toJson.document.tree = .ok balance := by
  obtain ⟨mintUrl, unit, wallet, users, owner, error⟩ := balance
  have mintUrls := Fills.slot site.inner shape "mint_url"
    (fun mintUrl => ⟨mintUrl, none, none, none, none, none⟩)
    rfl rfl (fun _ => rfl) (decode_string mintUrl)
  have units := Fills.slot site.inner shape "unit"
    (fun unit => ⟨some mintUrl, unit, none, none, none, none⟩)
    rfl rfl (fun _ => rfl) (decode_string unit)
  have wallets := Fills.slot site.inner shape "wallet_balance"
    (fun wallet => ⟨some mintUrl, some unit, wallet, none, none, none⟩)
    rfl rfl (fun _ => rfl) (decode_int64 wallet)
  have userBalances := Fills.slot site.inner shape "user_balance"
    (fun users => ⟨some mintUrl, some unit, some wallet, users, none, none⟩)
    rfl rfl (fun _ => rfl) (decode_int64 users)
  have ownerBalances := Fills.slot site.inner shape "owner_balance"
    (fun owner => ⟨some mintUrl, some unit, some wallet, some users, owner, none⟩)
    rfl rfl (fun _ => rfl) (decode_int64 owner)
  have errors := Fills.optional site.inner shape "error"
    (fun error => ⟨some mintUrl, some unit, some wallet, some users, some owner, error⟩) error
    rfl rfl (fun _ => rfl) fun error _ => decode_optional nofun (decode_string error)
  have fills := (mintUrls.append (units.append (wallets.append
    (userBalances.append ownerBalances)))).append errors
  apply decode_record shallow fills
  simp only [shape, Option.map_some, Option.getD_some, join_map_some]

theorem BalanceSummary.decode_toJson (summary : BalanceSummary)
    (shallow : site.level + 3 < depthLimit) :
    BalanceSummary.decode site summary.toJson.document.tree = .ok summary := by
  obtain ⟨wallet, users, owner, unit, mints⟩ := summary
  have wallets := Fills.slot site.inner shape "total_wallet"
    (fun wallet => ⟨wallet, none, none, none, none⟩)
    rfl rfl (fun _ => rfl) (decode_int64 wallet)
  have userBalances := Fills.slot site.inner shape "user_balances"
    (fun users => ⟨some wallet, users, none, none, none⟩)
    rfl rfl (fun _ => rfl) (decode_int64 users)
  have ownerBalances := Fills.slot site.inner shape "owner_balance"
    (fun owner => ⟨some wallet, some users, owner, none, none⟩)
    rfl rfl (fun _ => rfl) (decode_int64 owner)
  have units := Fills.slot site.inner shape "unit"
    (fun unit => ⟨some wallet, some users, some owner, unit, none⟩)
    rfl rfl (fun _ => rfl) (decode_string unit)
  have each : ∀ mint ∈ mints,
      MintBalance.decode site.inner.inner mint.toJson.document.tree = .ok mint := by
    intro mint _
    exact mint.decode_toJson shallow
  have mintLists := Fills.slot site.inner shape "mints"
    (fun mints => ⟨some wallet, some users, some owner, some unit, mints⟩)
    rfl rfl (fun _ => rfl) (decode_list (Nat.lt_of_succ_lt shallow) each)
  have fills := wallets.append (userBalances.append (ownerBalances.append
    (units.append mintLists)))
  apply decode_record (Nat.lt_of_succ_lt (Nat.lt_of_succ_lt shallow)) fills
  simp only [shape, Option.getD_some]

/-! ## Texts -/

/-- Every record is found in the texts that are written for it, as long as its doubles are. -/
theorem records_roundTrip :
    (∀ model : Model, model.ReadsBack → RoundTrips Model.decode Model.toJson model) ∧
      (∀ change : ModelOverride, change.ReadsBack →
        RoundTrips ModelOverride.decode ModelOverride.toJson change) ∧
      (∀ provider : Provider, (∀ fee ∈ provider.fee, fee.ReadsBack) →
        RoundTrips Provider.decode Provider.toJson provider) ∧
      (∀ balance, RoundTrips MintBalance.decode MintBalance.toJson balance) ∧
      ∀ summary, RoundTrips BalanceSummary.decode BalanceSummary.toJson summary := by
  refine ⟨?_, ?_, ?_, ?_, ?_⟩
  · intro model readsBack
    exact roundTrips_of_tree (Model.decode_toJson readsBack (by decide))
  · intro change readsBack
    exact roundTrips_of_tree (ModelOverride.decode_toJson readsBack (by decide))
  · intro provider readsBack
    exact roundTrips_of_tree (Provider.decode_toJson readsBack (by decide))
  · intro balance
    exact roundTrips_of_tree (balance.decode_toJson (by decide))
  · intro summary
    exact roundTrips_of_tree (summary.decode_toJson (by decide))

/-- A model that is off, with a negative context length and an id that has to be escaped, an
override that only turns a model off and prices it, and a provider with an empty key. -/
theorem records_roundTrip_awkward :
    RoundTrips Model.decode Model.toJson
        { id := "a\"b\\\n😀"
          name := some ""
          provider := none
          enabled := false
          inputPrice := Double.ofDecimal false 15 (-1)
          outputPrice := .number true Magnitude.zero
          minimum := some (Double.ofDecimal false 25 (-8))
          contextLength := some (-5) } ∧
      RoundTrips ModelOverride.decode ModelOverride.toJson
        ⟨none, some false, none, some (Double.ofNat 3), none⟩ ∧
      RoundTrips Provider.decode Provider.toJson
        ⟨-1, "openai", "", false, some "", some (Double.ofDecimal false 5 (-2))⟩ := by
  refine ⟨?_, ?_, ?_⟩
  · apply records_roundTrip.1
    constructor
    · decide +kernel
    · decide +kernel
    · rintro _ ⟨⟩
      decide +kernel
  · apply records_roundTrip.2.1
    constructor
    · rintro _ ⟨⟩
    · rintro _ ⟨⟩
      decide +kernel
    · rintro _ ⟨⟩
  · apply records_roundTrip.2.2.1
    rintro _ ⟨⟩
    decide +kernel

end NodeAdmin
