import NodeAdmin.Api.Error
import NodeAdmin.Model.Document
import NodeAdmin.Node.Balance
import NodeAdmin.Node.LogEntry
import NodeAdmin.Node.Provider
import NodeAdmin.Session.Basic

/-!
# Calls to a node

A client belongs to one session whose node may be sent the token. Each call hands at
most one request to the transport and is given the reply to it; a call that fails
before it sends anything hands over none. Where a node redirects a request, the
transport follows on its own, and the reply is that of the last node it came to.
-/

namespace NodeAdmin.Api

structure Client where
  session : Session
  deriving DecidableEq, Repr

/-- What came of a call, and its request with the reply if one was made. -/
structure Exchange (α : Type) where
  dispatch : Option Dispatch
  result : Except ApiError α

/-- A call that fails before it sends anything. -/
def Exchange.unsent {α : Type} (error : ApiError) : Exchange α := ⟨none, .error error⟩

/-- The exchange with a result that depends on the one it had. -/
def Exchange.refine {α β : Type} (next : α → Except ApiError β) (exchange : Exchange α) :
    Exchange β :=
  ⟨exchange.dispatch, exchange.result.bind next⟩

def modelsPath : String := "/admin/api/models"

def providersPath : String := "/admin/api/upstream-providers"

def logsPath : String := "/admin/api/logs"

def balancesPath : String := "/admin/api/balances"

/-- What a reply to a request means. A refused token is told before the body is
looked at, and a body is read only when the status says that all is well. -/
def readReply {α : Type} (decoder : Json.Decoder α) (address : String) (request : Request) :
    Reply → Except ApiError α
  | .failed causes => .error (.transport (.unsent request.url.text causes))
  | .answered status body =>
      let text := String.ofList (Text.decodeLossy body)
      if status = 401 then .error .unauthorized
      else if 200 ≤ status ∧ status < 300 then
        (Json.decodeText decoder text).mapError (.decode address)
      else .error (.http status address text)

namespace Client

/-- The client of a session, unless its node may not be sent a token. -/
def ofSession (session : Session) : Except ApiError Client :=
  match Endpoint.validate session.baseUrl with
  | .ok _ => .ok ⟨session⟩
  | .error error => .error (.insecureEndpoint error)

/-- Sends a draft with the token of the session. The token is looked for first;
then the draft must have an address, and then a header must be able to hold the
token. -/
def send {α : Type} (client : Client) (decoder : Json.Decoder α) (address : String)
    (draft : Except Url.Problem Draft) (reply : Reply) : Exchange α :=
  match client.session.token, draft with
  | none, _ => .unsent .missingToken
  | some _, .error problem => .unsent (.transport (.unparsable problem))
  | some token, .ok draft =>
      if isHeaderText token then
        let request := draft.withToken token
        ⟨some ⟨request, reply⟩, readReply decoder address request reply⟩
      else .unsent (.transport .invalidHeader)

/-- Asks for the document at a path of the node. -/
def fetch {α : Type} (client : Client) (decoder : Json.Decoder α) (path : String)
    (query : List (String × String)) (reply : Reply) : Exchange α :=
  let address := client.session.endpoint path
  let draft := (Url.parse address).map fun url => ⟨.get, url.addQuery query, none⟩
  client.send decoder address draft reply

def listModels (client : Client) (reply : Reply) : Exchange (List Model) :=
  client.fetch Model.decodeList modelsPath [] reply

/-- The first model of an id. -/
def findModel (id : String) (models : List Model) : Except ApiError Model :=
  match models.find? (·.id == id) with
  | some model => .ok model
  | none => .error (.modelNotFound id)

def getModel (client : Client) (id : String) (reply : Reply) : Exchange Model :=
  (client.listModels reply).refine (findModel id)

/-- The address of one model: each part of its id between slashes is one more
segment of the path. -/
def modelUrl (client : Client) (id : String) : Except ApiError Url :=
  let address := client.session.endpoint modelsPath
  match Url.parse address with
  | .ok url => .ok (url.addPath (Text.pieces '/' id.toList))
  | .error problem => .error (.unparsableEndpoint address problem)

/-- Stores an override for a model; the node answers with the changed model. -/
def updateModel (client : Client) (id : String) (change : ModelOverride) (reply : Reply) :
    Exchange Model :=
  match client.modelUrl id with
  | .error error => .unsent error
  | .ok url =>
      client.send Model.decode url.text (.ok ⟨.patch, url, some change.toJson.compact⟩) reply

def listProviders (client : Client) (reply : Reply) : Exchange (List Provider) :=
  client.fetch Provider.decodeList providersPath [] reply

/-- The query for log entries; the node knows its levels in upper case. -/
def logsQuery (limit : Nat) (level : Option String) : List (String × String) :=
  ("limit", String.ofList (Nat.toDigits 10 limit)) ::
    (level.map fun level => ("level", Text.toUpper level)).toList

def listLogs (client : Client) (limit : Nat) (level : Option String) (reply : Reply) :
    Exchange (List LogEntry) :=
  client.fetch LogEntry.decodeList logsPath (logsQuery limit level) reply

def balances (client : Client) (reply : Reply) : Exchange BalanceSummary :=
  client.fetch BalanceSummary.decode balancesPath [] reply

end Client

end NodeAdmin.Api
