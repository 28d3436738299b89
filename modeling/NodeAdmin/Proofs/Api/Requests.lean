import NodeAdmin.Api.Client
import NodeAdmin.Proofs.Url.Plain

/-!
# What calls send

A call sends its request if the session has a token that a header can hold and the path
of the call is read to an address; otherwise it sends nothing and fails.
-/

namespace NodeAdmin.Api

/-- A request for a document. -/
def Request.asking (url : Url) (token : String) : Request :=
  ⟨.get, url, [bearer token], none⟩

/-- A request for a change of a model. -/
def Request.changing (url : Url) (token : String) (change : ModelOverride) : Request :=
  ⟨.patch, url, [bearer token], some change.toJson.compact⟩

/-- Whether a call to a path can be sent, with the token and the address of the path. -/
structure Client.Reaches (client : Client) (path token : String) (base : Url) : Prop where
  held : client.session.token = some token
  sendable : isHeaderText token = true
  located : Url.parse (client.session.endpoint path) = .ok base

/-- Whether a reply is a list of models with a model of an id, the first of which is
`model`. -/
def Reply.Offers (reply : Reply) (id : String) (model : Model) : Prop :=
  ∃ status body models, reply = .answered status body ∧ 200 ≤ status ∧ status < 300 ∧
    Json.decodeText Model.decodeList (String.ofList (Text.decodeLossy body)) = .ok models ∧
    models.find? (·.id == id) = some model

/-- A reply is read to a value just when the node answered with it and all was well. -/
theorem readReply_eq_ok_iff {α : Type} {decoder : Json.Decoder α} {address : String}
    {request : Request} {reply : Reply} {value : α} :
    readReply decoder address request reply = .ok value ↔
      ∃ status body, reply = .answered status body ∧ 200 ≤ status ∧ status < 300 ∧
        Json.decodeText decoder (String.ofList (Text.decodeLossy body)) = .ok value := by
  cases reply with
  | failed causes => simp [readReply]
  | answered status body =>
      constructor
      · intro read
        unfold readReply at read
        dsimp only at read
        split at read
        · cases read
        · split at read
          · rename_i success
            refine ⟨status, body, rfl, success.1, success.2, ?_⟩
            cases decoded :
                Json.decodeText decoder (String.ofList (Text.decodeLossy body)) with
            | ok found =>
                rw [decoded] at read
                cases read
                rfl
            | error fault =>
                rw [decoded] at read
                cases read
          · cases read
      · rintro ⟨_, _, same, low, high, decoded⟩
        cases same
        unfold readReply
        dsimp only
        rw [if_neg (by omega), if_pos ⟨low, high⟩, decoded]
        rfl

namespace Client

variable {client : Client} {path token : String} {base : Url}

/-! ## Sending -/

/-- Nothing is sent without a token that a header can hold and a draft. -/
theorem send_unsent {α : Type} {draft : Except Url.Problem Draft}
    (unsendable : ∀ token made, client.session.token = some token → draft = .ok made →
      isHeaderText token = false)
    (decoder : Json.Decoder α) (address : String) (reply : Reply) :
    ∃ error, client.send decoder address draft reply = .unsent error := by
  unfold send
  split
  · exact ⟨_, rfl⟩
  · exact ⟨_, rfl⟩
  · rename_i token made held
    rw [unsendable token made held rfl]
    exact ⟨_, rfl⟩

theorem fetch_unsent {α : Type} (unreached : ∀ token base, ¬ client.Reaches path token base)
    (decoder : Json.Decoder α) (query : List (String × String)) (reply : Reply) :
    ∃ error, client.fetch decoder path query reply = .unsent error := by
  apply send_unsent
  intro token made held drafted
  rw [Bool.eq_false_iff]
  intro sendable
  cases located : Url.parse (client.session.endpoint path) with
  | error problem =>
      rw [located] at drafted
      cases drafted
  | ok base => exact unreached token base ⟨held, sendable, located⟩

theorem fetch_of_reaches {α : Type} (reaches : client.Reaches path token base)
    (bare : base.IsBare) (decoder : Json.Decoder α) (query : List (String × String))
    (reply : Reply) :
    client.fetch decoder path query reply =
      ⟨some ⟨.asking (base.addQuery query) token, reply⟩,
        readReply decoder (client.session.endpoint path)
          (.asking (base.addQuery query) token) reply⟩ := by
  have same : Draft.withToken ⟨.get, base.addQuery query, none⟩ token =
      .asking (base.addQuery query) token := by
    simp [Draft.withToken, Request.asking, Url.withoutCredentials, Url.addQuery,
      bare.noCredentials]
  simp only [fetch, send, reaches.held, reaches.located, Except.map, reaches.sendable,
    if_true, same]

theorem updateModel_unsent
    (unreached : ∀ token base, ¬ client.Reaches modelsPath token base) (id : String)
    (change : ModelOverride) (reply : Reply) :
    ∃ error, client.updateModel id change reply = .unsent error := by
  unfold updateModel
  cases found : client.modelUrl id with
  | error error => exact ⟨error, rfl⟩
  | ok url =>
      apply send_unsent
      intro token made held _
      rw [Bool.eq_false_iff]
      intro sendable
      unfold modelUrl at found
      cases located : Url.parse (client.session.endpoint modelsPath) with
      | error problem => simp [located] at found
      | ok base => exact unreached token base ⟨held, sendable, located⟩

theorem updateModel_dispatch (reaches : client.Reaches modelsPath token base)
    (bare : base.IsBare) (id : String) (change : ModelOverride) (reply : Reply) :
    (client.updateModel id change reply).dispatch =
      some ⟨.changing (base.addPath (Text.pieces '/' id.toList)) token change, reply⟩ := by
  simp [updateModel, modelUrl, send, reaches.held, reaches.located, reaches.sendable,
    Draft.withToken, Request.changing, Url.withoutCredentials, Url.addPath,
    bare.noCredentials]

/-! ## Models -/

theorem getModel_unsent
    (unreached : ∀ token base, ¬ client.Reaches modelsPath token base) (id : String)
    (reply : Reply) : ∃ error, client.getModel id reply = .unsent error := by
  obtain ⟨error, unsent⟩ := fetch_unsent unreached Model.decodeList [] reply
  exact ⟨error, by rw [getModel, listModels, unsent]; rfl⟩

theorem getModel_dispatch (reaches : client.Reaches modelsPath token base)
    (bare : base.IsBare) (id : String) (reply : Reply) :
    (client.getModel id reply).dispatch =
      some ⟨.asking (base.addQuery []) token, reply⟩ := by
  rw [getModel, listModels, fetch_of_reaches reaches bare]
  rfl

theorem findModel_eq_ok_iff {id : String} {models : List Model} {model : Model} :
    findModel id models = .ok model ↔ models.find? (·.id == id) = some model := by
  unfold findModel
  cases models.find? (·.id == id) <;> simp

/-- A model is found just when the node offers it. -/
theorem getModel_result_eq_ok_iff (reaches : client.Reaches modelsPath token base)
    (bare : base.IsBare) {id : String} {reply : Reply} {model : Model} :
    (client.getModel id reply).result = .ok model ↔ reply.Offers id model := by
  rw [getModel, listModels, fetch_of_reaches reaches bare, Exchange.refine]
  constructor
  · intro found
    cases read : readReply Model.decodeList (client.session.endpoint modelsPath)
        (.asking (base.addQuery []) token) reply with
    | error error =>
        rw [read] at found
        cases found
    | ok models =>
        rw [read] at found
        obtain ⟨status, body, same, low, high, decoded⟩ := readReply_eq_ok_iff.mp read
        exact ⟨status, body, models, same, low, high, decoded,
          findModel_eq_ok_iff.mp found⟩
  · rintro ⟨status, body, models, same, low, high, decoded, found⟩
    rw [readReply_eq_ok_iff.mpr ⟨status, body, same, low, high, decoded⟩]
    exact findModel_eq_ok_iff.mpr found

end Client

end NodeAdmin.Api
