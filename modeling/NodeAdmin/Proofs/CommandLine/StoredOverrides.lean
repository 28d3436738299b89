import NodeAdmin.Proofs.CommandLine.Recommendation
import NodeAdmin.Proofs.Node.Records

/-!
# What a node reads from an update

The body of an update is the JSON text of the override that the operator ordered.  A node that
reads it finds this override, except for infinities and not-a-number, which JSON cannot hold: what
sets them is read as if it were left open.
-/

namespace NodeAdmin

/-! ## Overrides with numbers that are not finite -/

/-- A price is finite if a model of zeros cannot tell it from its finite part. -/
theorem isFinite_of_getD_eq {price : Option Double}
    (same : (price.filter Double.isFinite).getD Double.zero = price.getD Double.zero) :
    ∀ value ∈ price, value.isFinite = true := by
  rintro value ⟨⟩
  cases finite : value.isFinite with
  | true => rfl
  | false =>
      have zero : Double.zero = value := by simpa [Option.filter, finite] using same
      rw [← zero] at finite
      exact absurd finite (by decide)

/-- An override with finite numbers only changes every model like its finite part does, and no
other override does. -/
theorem ModelOverride.apply_finitePart_iff (change : ModelOverride) :
    (∀ model : Model, model.apply change.finitePart = model.apply change) ↔ change.IsFinite := by
  constructor
  · intro same
    -- A model of zeros without a floor shows every number that an override sets.
    have shown := same (Model.ofPrices "" Double.zero Double.zero)
    simp only [Model.apply, Model.ofPrices, finitePart, Model.mk.injEq, true_and, and_true] at shown
    obtain ⟨inputPrice, outputPrice, minimum⟩ := shown
    refine ⟨isFinite_of_getD_eq inputPrice, isFinite_of_getD_eq outputPrice, ?_⟩
    rw [← filter_isFinite_eq_iff]
    simpa using minimum
  · intro finite model
    rw [change.finitePart_eq_iff.mpr finite]

namespace Api.Client

variable {client : Client} {id : String} {reply : Reply} {dispatch : Dispatch}

theorem send_request {α : Type} {decoder : Json.Decoder α} {address : String}
    {draft : Except Url.Problem Draft}
    (sent : (client.send decoder address draft reply).dispatch = some dispatch) :
    ∃ made token, draft = .ok made ∧ dispatch.request = made.withToken token := by
  unfold send at sent
  split at sent
  · cases sent
  · cases sent
  · rename_i token made _
    split at sent
    · cases sent
      exact ⟨made, token, rfl, rfl⟩
    · cases sent

/-- Nothing but a question goes out for a model. -/
theorem getModel_method (sent : (client.getModel id reply).dispatch = some dispatch) :
    dispatch.request.method = .get := by
  rw [getModel, listModels, fetch, Exchange.refine] at sent
  obtain ⟨made, token, drafted, request⟩ := send_request sent
  cases located : Url.parse (client.session.endpoint modelsPath) with
  | error problem =>
      rw [located] at drafted
      cases drafted
  | ok url =>
      rw [located] at drafted
      cases drafted
      rw [request]
      rfl

/-- The body of a change is its JSON text. -/
theorem updateModel_body {change : ModelOverride}
    (sent : (client.updateModel id change reply).dispatch = some dispatch) :
    dispatch.request.method = .patch ∧
      dispatch.request.body = some change.toJson.compact := by
  unfold updateModel at sent
  split at sent
  · cases sent
  · obtain ⟨made, token, drafted, request⟩ := send_request sent
    cases drafted
    rw [request]
    exact ⟨rfl, rfl⟩

end Api.Client

namespace CommandLine

/-- The override that an update orders: the one of its options, to which the floor for the model
that the node returned is added where it is asked for. -/
inductive ModelUpdate.Orders (update : ModelUpdate) (environment : NodeEnvironment)
    (file : StoredFile) (reply : Api.Reply) : ModelOverride → Prop where
  | given (direct : update.recommendedMinimum = false) :
      Orders update environment file reply update.toOverride
  | recommended {client : Api.Client} {model : Model}
      (recommended : update.recommendedMinimum = true)
      (connected : connect environment file = .ok client)
      (found : (client.getModel update.model reply).result = .ok model) :
      Orders update environment file reply (recommendMinimum update.toOverride model)

section

variable {setting : Setting} {client : Api.Client} {file : StoredFile}
  {dispatch : Api.Dispatch}

theorem storeOverride_body {id : String} {change : ModelOverride} {reply : Api.Reply}
    (sent : dispatch ∈ (storeOverride setting client id change reply file).dispatches) :
    dispatch.request.body = some change.toJson.compact := by
  unfold storeOverride at sent
  split at sent
  · cases sent
  · rw [proceed_dispatches_of_silent fun _ => rfl, Option.mem_toList] at sent
    exact (Api.Client.updateModel_body sent).2

/-- An update sends no change but the one that it orders. -/
theorem runUpdate_body {update : ModelUpdate}
    (sent : dispatch ∈ (runUpdate setting update file).dispatches)
    (patch : dispatch.request.method = .patch) :
    ∃ change, update.Orders setting.environment file (setting.replies 0) change ∧
      dispatch.request.body = some change.toJson.compact := by
  unfold runUpdate withClient at sent
  cases connected : connect setting.environment file with
  | error failure =>
      rw [connected] at sent
      cases sent
  | ok client =>
      rw [connected] at sent
      dsimp only at sent
      cases recommended : update.recommendedMinimum with
      | false =>
          rw [recommended, if_neg Bool.false_ne_true] at sent
          exact ⟨_, .given recommended, storeOverride_body sent⟩
      | true =>
          rw [recommended, if_pos rfl] at sent
          have notAsked : dispatch ∉
              (client.getModel update.model (setting.replies 0)).dispatch.toList := by
            intro asked
            rw [Option.mem_toList] at asked
            rw [Api.Client.getModel_method asked] at patch
            cases patch
          cases result : (client.getModel update.model (setting.replies 0)).result with
          | error error =>
              rw [proceed_dispatches_of_failure] at sent
              · exact absurd sent notAsked
              · intro model found
                rw [result] at found
                cases found
          | ok model =>
              rw [proceed_dispatches_of_ok result, List.mem_append] at sent
              exact ⟨_, .recommended recommended connected result,
                storeOverride_body (sent.resolve_left notAsked)⟩

end

/-- A node reads from the body of an update the override that was ordered, as far as its numbers
are finite; it changes all models like that override just when all of its numbers are. -/
theorem Run.patch_orders_iff {run : Run} {file : StoredFile} {invocation : Invocation}
    {update : ModelUpdate} {dispatch : Api.Dispatch} (parsed : parse run.arguments = .ok invocation)
    (asked : invocation.command = .update update) (sent : dispatch ∈ run.dispatches file)
    (patch : dispatch.request.method = .patch) :
    ∃ change body,
      update.Orders run.surroundings.environment file (run.surroundings.replies 0) change ∧
      dispatch.request.body = some body ∧
      (change.finitePart.ReadsBack → ∃ decoded,
        Json.decodeText ModelOverride.decode body = .ok decoded ∧
        decoded = change.finitePart ∧
        (decoded = change ↔ change.IsFinite) ∧
        ((∀ model : Model, model.apply decoded = model.apply change) ↔ change.IsFinite)) := by
  rw [Run.dispatches, parsed] at sent
  dsimp only at sent
  unfold CommandLine.run at sent
  rw [asked] at sent
  obtain ⟨change, orders, body⟩ := runUpdate_body sent patch
  refine ⟨change, _, orders, body, ?_⟩
  intro readsBack
  refine ⟨change.finitePart, ?_, rfl, change.finitePart_eq_iff, change.apply_finitePart_iff⟩
  rw [Json.decodeText_compact]
  exact ModelOverride.decode_toJson_finitePart readsBack (by decide)

/-- An update of an input price in the unit of tokens and of the floor. -/
def tokenPriceRun : Run :=
  ⟨narrowSurroundings,
    ["models", "update", "gpt", "--input-price", "2e-6", "--unit", "token", "--recommended-min"]⟩

def tokenPriceUpdate : ModelUpdate :=
  ⟨"gpt", none, none, ⟨some (Double.ofDecimal false 2 (-6)), none, none, .perToken⟩, true⟩

def tokenPriceChange : ModelOverride := recommendMinimum tokenPriceUpdate.toOverride narrowModel

theorem tokenPriceRun_orders {change : ModelOverride}
    (orders : tokenPriceUpdate.Orders narrowSurroundings.environment .absent
      (narrowSurroundings.replies 0) change) : change = tokenPriceChange := by
  have opened : connect narrowSurroundings.environment .absent = .ok ⟨raiseSession⟩ := by
    decide +kernel
  have offered : (Api.Client.getModel ⟨raiseSession⟩ tokenPriceUpdate.model
      (narrowSurroundings.replies 0)).result = .ok narrowModel := by
    decide +kernel
  cases orders with
  | given direct => cases direct
  | recommended _ connected found =>
      rw [opened] at connected
      cases connected
      rw [offered] at found
      cases found
      rfl

theorem tokenPriceChange_isFinite : tokenPriceChange.IsFinite ∧ tokenPriceChange.ReadsBack := by
  have readable : ([tokenPriceChange.inputPrice, tokenPriceChange.outputPrice,
      tokenPriceChange.minimum].all fun number =>
        number.all fun value => value.isFinite && decide value.ReadsBack) = true := by
    decide +kernel
  simp only [List.all_cons, List.all_nil, Bool.and_true, Bool.and_eq_true, Option.all_eq_true,
    decide_eq_true_eq] at readable
  obtain ⟨input, output, minimum⟩ := readable
  refine ⟨⟨?_, ?_, ?_⟩, ?_, ?_, ?_⟩
  · exact fun value member => (input value member).1
  · exact fun value member => (output value member).1
  · exact fun value member => (minimum value member).1
  · exact fun value member => (input value member).2
  · exact fun value member => (output value member).2
  · exact fun value member => (minimum value member).2

theorem patch_orders_iff_tokenPriceRun :
    parse tokenPriceRun.arguments =
        .ok ⟨.update tokenPriceUpdate, none, false, false, false, false⟩ ∧
      ∃ dispatch ∈ tokenPriceRun.dispatches .absent, dispatch.request.method = .patch ∧
        ∃ body, dispatch.request.body = some body ∧
          Json.decodeText ModelOverride.decode body = .ok tokenPriceChange := by
  have parsed : parse tokenPriceRun.arguments =
      .ok ⟨.update tokenPriceUpdate, none, false, false, false, false⟩ := by
    decide +kernel
  have sends : ((tokenPriceRun.dispatches .absent).find? (·.request.method = .patch)).isSome := by
    decide +kernel
  obtain ⟨dispatch, sent⟩ := Option.isSome_iff_exists.mp sends
  have patch : dispatch.request.method = .patch := by simpa using List.find?_some sent
  have member := List.mem_of_find?_eq_some sent
  obtain ⟨change, body, orders, written, read⟩ :=
    tokenPriceRun.patch_orders_iff parsed rfl member patch
  obtain rfl := tokenPriceRun_orders orders
  obtain ⟨finite, readsBack⟩ := tokenPriceChange_isFinite
  rw [tokenPriceChange.finitePart_eq_iff.mpr finite] at read
  obtain ⟨decoded, decodes, -, whole, -⟩ := read readsBack
  rw [whole.mpr finite] at decodes
  exact ⟨parsed, dispatch, member, patch, body, written, decodes⟩

/-- An update that sets an infinite price. -/
def infinitePriceRun : Run :=
  ⟨narrowSurroundings, ["models", "update", "gpt", "--input-price=inf"]⟩

def infinitePriceUpdate : ModelUpdate :=
  ⟨"gpt", none, none, ⟨some Double.infinity, none, none, .perMillion⟩, false⟩

/-- The update is sent, and the node reads from it that nothing is to change. -/
theorem infinite_price_is_not_read :
    parse infinitePriceRun.arguments =
        .ok ⟨.update infinitePriceUpdate, none, false, false, false, false⟩ ∧
      (infinitePriceRun.dispatches .absent).map
        (fun dispatch => (dispatch.request.method, dispatch.request.body)) =
          [(.patch, some "\x7b\"input_cost\":null\x7d")] ∧
      Json.decodeText ModelOverride.decode "\x7b\"input_cost\":null\x7d" =
        .ok ModelOverride.empty ∧
      infinitePriceUpdate.toOverride ≠ ModelOverride.empty ∧
      narrowModel.apply ModelOverride.empty ≠
        narrowModel.apply infinitePriceUpdate.toOverride := by
  refine ⟨?_, ?_, ?_, ?_, ?_⟩
  · decide +kernel
  · decide +kernel
  · decide +kernel
  · decide
  · decide +kernel

end CommandLine

end NodeAdmin
