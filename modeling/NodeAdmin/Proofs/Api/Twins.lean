import NodeAdmin.Api.Client
import NodeAdmin.Proofs.Config.Twins

/-!
# Sessions of twins

The clients of two sessions that differ in nothing but their token make the same calls:
their requests differ in the Authorization header only, and the replies mean the same.
-/

namespace NodeAdmin

namespace Session

/-- Sessions that differ in nothing but their token. -/
structure Twins (session other : Session) : Prop where
  baseUrl : session.baseUrl = other.baseUrl
  source : session.source = other.source
  token : TokenTwins session.token other.token

theorem Twins.endpoint_eq {session other : Session} (twins : session.Twins other)
    (path : String) : session.endpoint path = other.endpoint path := by
  rw [endpoint, endpoint, twins.baseUrl]

end Session

/-- Environments that differ in nothing but their token. -/
structure NodeEnvironment.Twins (environment other : NodeEnvironment) : Prop where
  url : environment.url = other.url
  token : TokenTwins environment.token other.token

theorem TokenTwins.meaningful {token other : Option String} (twins : TokenTwins token other) :
    TokenTwins (Session.meaningful token) (Session.meaningful other) := by
  cases twins with
  | same => exact .same _
  | other isToken otherIsToken =>
      simp only [Session.meaningful, Option.filter_some, isToken.filled, otherIsToken.filled]
      exact .other isToken otherIsToken

/-- The token of the environment takes the place of that in the configuration for both of
two twins or for neither. -/
theorem Session.chooseToken_twins {stored otherStored given otherGiven : Option String}
    (storedTwins : TokenTwins stored otherStored) (givenTwins : TokenTwins given otherGiven) :
    TokenTwins (chooseToken stored given).1 (chooseToken otherStored otherGiven).1 ∧
      (chooseToken stored given).2 = (chooseToken otherStored otherGiven).2 := by
  have storedMeaningful := storedTwins.meaningful
  have givenMeaningful := givenTwins.meaningful
  unfold chooseToken
  generalize meaningful given = given, meaningful otherGiven = otherGiven,
    meaningful stored = stored, meaningful otherStored = otherStored at *
  cases givenMeaningful with
  | same =>
      cases given with
      | some token => exact ⟨.same _, rfl⟩
      | none =>
          cases storedMeaningful with
          | same => exact ⟨.same _, rfl⟩
          | other isToken otherIsToken => exact ⟨.other isToken otherIsToken, rfl⟩
  | other isToken otherIsToken => exact ⟨.other isToken otherIsToken, rfl⟩

theorem Session.resolve_twins {config otherConfig : Config}
    {environment otherEnvironment : NodeEnvironment} (configTwins : config.Twins otherConfig)
    (environmentTwins : environment.Twins otherEnvironment) :
    (resolve config environment).Twins (resolve otherConfig otherEnvironment) := by
  obtain ⟨token, source⟩ := chooseToken_twins configTwins.token environmentTwins.token
  refine ⟨?_, source, token⟩
  simp only [resolve, environmentTwins.url, configTwins.baseUrl]

namespace Api

/-- A request without its Authorization headers. -/
def Request.withoutToken (request : Request) : Request := { request with authorization := [] }

def Dispatch.withoutToken (dispatch : Dispatch) : Dispatch :=
  { dispatch with request := dispatch.request.withoutToken }

/-- Exchanges that differ in nothing but the Authorization headers of their requests. -/
structure Exchange.Twins {α : Type} (exchange other : Exchange α) : Prop where
  dispatch : exchange.dispatch.map Dispatch.withoutToken =
    other.dispatch.map Dispatch.withoutToken
  result : exchange.result = other.result

theorem Exchange.Twins.refl {α : Type} (exchange : Exchange α) : exchange.Twins exchange :=
  ⟨rfl, rfl⟩

theorem Exchange.Twins.refine {α β : Type} {exchange other : Exchange α}
    (twins : exchange.Twins other) (next : α → Except ApiError β) :
    (exchange.refine next).Twins (other.refine next) :=
  ⟨twins.dispatch, by rw [Exchange.refine, Exchange.refine, twins.result]⟩

/-- What a reply means does not depend on the headers of the request. -/
theorem readReply_withToken {α : Type} (decoder : Json.Decoder α) (address : String)
    (draft : Draft) (token other : String) (reply : Reply) :
    readReply decoder address (draft.withToken token) reply =
      readReply decoder address (draft.withToken other) reply := by
  cases reply <;> rfl

namespace Client

variable {client other : Client} (twins : client.session.Twins other.session)

include twins

theorem send_twins {α : Type} (decoder : Json.Decoder α) (address : String)
    (draft : Except Url.Problem Draft) (reply : Reply) :
    (client.send decoder address draft reply).Twins
      (other.send decoder address draft reply) := by
  have tokens := twins.token
  unfold send
  generalize client.session.token = token, other.session.token = otherToken at tokens
  cases tokens with
  | same => exact .refl _
  | other isToken otherIsToken =>
      cases draft with
      | error problem => exact .refl _
      | ok draft =>
          simp only [isToken.sendable, otherIsToken.sendable, if_true]
          exact ⟨rfl, readReply_withToken decoder address draft _ _ reply⟩

theorem fetch_twins {α : Type} (decoder : Json.Decoder α) (path : String)
    (query : List (String × String)) (reply : Reply) :
    (client.fetch decoder path query reply).Twins (other.fetch decoder path query reply) := by
  unfold fetch
  rw [twins.endpoint_eq]
  exact send_twins twins decoder _ _ reply

theorem getModel_twins (id : String) (reply : Reply) :
    (client.getModel id reply).Twins (other.getModel id reply) :=
  (fetch_twins twins Model.decodeList modelsPath [] reply).refine (findModel id)

theorem updateModel_twins (id : String) (change : ModelOverride) (reply : Reply) :
    (client.updateModel id change reply).Twins (other.updateModel id change reply) := by
  have sameUrl : client.modelUrl id = other.modelUrl id := by
    rw [modelUrl, modelUrl, twins.endpoint_eq]
  unfold updateModel
  rw [sameUrl]
  cases other.modelUrl id with
  | error error => exact .refl _
  | ok url => exact send_twins twins Model.decode url.text _ reply

end Client

end Api

end NodeAdmin
