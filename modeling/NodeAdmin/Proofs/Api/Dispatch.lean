import NodeAdmin.Api.Client

/-!
# What a client sends

Every call goes through one function that sends.  What holds of its requests
therefore holds of the requests of all calls: they go to the node of the session
and carry the token of the session, and a call fails for a refused token just when
the reply to its request says so.
-/

namespace NodeAdmin.Api

/-- The paths of a node that a client knows. -/
def knownPaths : List String := [modelsPath, providersPath, logsPath, balancesPath]

/-- Whether an address leads to the node of a session: a known path of the session
was read to the same scheme, host and port. -/
def Client.Addresses (client : Client) (url : Url) : Prop :=
  ∃ path ∈ knownPaths, ∃ base,
    Url.parse (client.session.endpoint path) = .ok base ∧
      url.scheme = base.scheme ∧ url.host = base.host ∧ url.port = base.port

/-- A request goes to the node of the session and carries its token. -/
structure Client.Sends (client : Client) (dispatch : Dispatch) : Prop where
  target : client.Addresses dispatch.request.url
  carriesToken : ∃ token, client.session.token = some token ∧
    bearer token ∈ dispatch.request.authorization

/-- Whether the node refused the token of a request. -/
def Dispatch.IsRefusal (dispatch : Dispatch) : Prop :=
  ∃ body, dispatch.reply = .answered 401 body

/-- An exchange that only sends what the client may send, and fails for a refused
token just when the node refused it. -/
structure Exchange.Faithful {α : Type} (client : Client) (exchange : Exchange α) :
    Prop where
  sends : ∀ dispatch, exchange.dispatch = some dispatch → client.Sends dispatch
  refused : exchange.result = .error .unauthorized ↔
    ∃ dispatch, exchange.dispatch = some dispatch ∧ dispatch.IsRefusal

theorem readReply_unauthorized_iff {α : Type} {decoder : Json.Decoder α}
    {address : String} {request : Request} {reply : Reply} :
    readReply decoder address request reply = .error .unauthorized ↔
      ∃ body, reply = .answered 401 body := by
  cases reply with
  | failed causes => simp [readReply]
  | answered status body =>
      by_cases unauthorized : status = 401
      · simp [readReply, unauthorized]
      · simp only [readReply, unauthorized, if_false, Reply.answered.injEq, false_and,
          exists_false, iff_false]
        split
        · cases Json.decodeText decoder (String.ofList (Text.decodeLossy body)) with
          | ok value =>
              intro refused
              cases refused
          | error fault =>
              intro refused
              cases refused
        · simp

namespace Exchange.Faithful

/-- A call that fails before it sends, for another reason than a refused token. -/
theorem unsent {α : Type} {client : Client} {error : ApiError}
    (notRefused : error ≠ .unauthorized) :
    (Exchange.unsent error : Exchange α).Faithful client := by
  constructor
  · intro dispatch sent
    cases sent
  · simp [Exchange.unsent, notRefused]

/-- A further look at the result never counts as a refused token. -/
theorem refine {α β : Type} {client : Client} {exchange : Exchange α}
    {next : α → Except ApiError β} (faithful : exchange.Faithful client)
    (notRefused : ∀ value, next value ≠ .error .unauthorized) :
    (exchange.refine next).Faithful client := by
  refine ⟨faithful.sends, ?_⟩
  rw [Exchange.refine, ← faithful.refused]
  cases exchange.result with
  | error error => simp [Except.bind]
  | ok value => simp [Except.bind, notRefused value]

end Exchange.Faithful

namespace Client

/-- The one place where requests are made. -/
theorem send_faithful {α : Type} (client : Client) (decoder : Json.Decoder α)
    (address : String) (draft : Except Url.Problem Draft) (reply : Reply)
    (toNode : ∀ made, draft = .ok made → client.Addresses made.url) :
    (client.send decoder address draft reply).Faithful client := by
  unfold send
  cases held : client.session.token with
  | none => exact .unsent (by simp)
  | some token =>
      cases draft with
      | error problem => exact .unsent (by simp)
      | ok draft =>
          by_cases holds : isHeaderText token = true
          · simp only [holds, if_true]
            constructor
            · intro dispatch sent
              simp only [Option.some.injEq] at sent
              subst sent
              exact ⟨toNode draft rfl, token, held, by simp [Draft.withToken]⟩
            · simp [readReply_unauthorized_iff, Dispatch.IsRefusal]
          · simp only [holds]
            exact .unsent (by simp)

theorem fetch_faithful {α : Type} (client : Client) (decoder : Json.Decoder α)
    {path : String} (known : path ∈ knownPaths) (query : List (String × String))
    (reply : Reply) : (client.fetch decoder path query reply).Faithful client := by
  apply send_faithful
  intro made drafted
  cases parsed : Url.parse (client.session.endpoint path) with
  | error problem =>
      rw [parsed] at drafted
      cases drafted
  | ok url =>
      rw [parsed] at drafted
      cases drafted
      exact ⟨path, known, url, parsed, rfl, rfl, rfl⟩

theorem listModels_faithful (client : Client) (reply : Reply) :
    (client.listModels reply).Faithful client :=
  client.fetch_faithful Model.decodeList (by simp [knownPaths]) [] reply

theorem findModel_ne_unauthorized (id : String) (models : List Model) :
    findModel id models ≠ .error .unauthorized := by
  unfold findModel
  split <;> simp

theorem getModel_faithful (client : Client) (id : String) (reply : Reply) :
    (client.getModel id reply).Faithful client :=
  (client.listModels_faithful reply).refine (findModel_ne_unauthorized id)

theorem modelUrl_addresses {client : Client} {id : String} {url : Url}
    (located : client.modelUrl id = .ok url) : client.Addresses url := by
  unfold modelUrl at located
  cases parsed : Url.parse (client.session.endpoint modelsPath) with
  | error problem => simp [parsed] at located
  | ok base =>
      simp only [parsed, Except.ok.injEq] at located
      subst located
      exact ⟨modelsPath, by simp [knownPaths], base, parsed, rfl, rfl, rfl⟩

theorem modelUrl_ne_unauthorized (client : Client) (id : String) :
    client.modelUrl id ≠ .error .unauthorized := by
  unfold modelUrl
  cases parsed : Url.parse (client.session.endpoint modelsPath) <;> simp [parsed]

theorem updateModel_faithful (client : Client) (id : String) (change : ModelOverride)
    (reply : Reply) : (client.updateModel id change reply).Faithful client := by
  unfold updateModel
  cases located : client.modelUrl id with
  | error error =>
      apply Exchange.Faithful.unsent
      intro refused
      exact client.modelUrl_ne_unauthorized id (refused ▸ located)
  | ok url =>
      apply send_faithful
      intro made drafted
      cases drafted
      exact modelUrl_addresses located

theorem listProviders_faithful (client : Client) (reply : Reply) :
    (client.listProviders reply).Faithful client :=
  client.fetch_faithful Provider.decodeList (by simp [knownPaths]) [] reply

theorem listLogs_faithful (client : Client) (limit : Nat) (level : Option String)
    (reply : Reply) : (client.listLogs limit level reply).Faithful client :=
  client.fetch_faithful LogEntry.decodeList (by simp [knownPaths])
    (logsQuery limit level) reply

theorem balances_faithful (client : Client) (reply : Reply) :
    (client.balances reply).Faithful client :=
  client.fetch_faithful BalanceSummary.decode (by simp [knownPaths]) [] reply

end Client

end NodeAdmin.Api
