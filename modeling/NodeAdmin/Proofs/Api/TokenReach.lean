import NodeAdmin.Proofs.Api.Dispatch
import NodeAdmin.Proofs.Url.LocalHost

/-!
# Where the token goes

A token goes out over HTTPS or to the local machine, except through one kind of
address that the check of endpoints lets pass: over plain HTTP, a local name in
front of an at sign is the name of a user, and the host stands behind it.
-/

namespace NodeAdmin

/-- Whether a token may be sent to an address. -/
def Url.IsSafe (url : Url) : Prop :=
  url.scheme = .https ∨ url.scheme = .http ∧ url.host.IsLocal

/-- Whether an address over plain HTTP has something in front of an at sign, and a
host behind it that is not the local machine. -/
def Endpoint.MasksHost (address : String) : Prop :=
  ∃ rest host, Text.afterStart? "http://".toList address.toList = some rest ∧
    '@' ∈ Url.authorityText rest ∧
    Url.host? (Url.hostText (Url.authorityText rest)) = .ok host ∧ ¬ host.IsLocal

namespace Api

/-- The calls that a client can make. -/
inductive Call where
  | listModels
  | getModel (id : String)
  | updateModel (id : String) (change : ModelOverride)
  | listProviders
  | listLogs (limit : Nat) (level : Option String)
  | balances

namespace Client

/-- The request that a call sends, with the reply to it. -/
def dispatch? (client : Client) (reply : Reply) : Call → Option Dispatch
  | .listModels => (client.listModels reply).dispatch
  | .getModel id => (client.getModel id reply).dispatch
  | .updateModel id change => (client.updateModel id change reply).dispatch
  | .listProviders => (client.listProviders reply).dispatch
  | .listLogs limit level => (client.listLogs limit level reply).dispatch
  | .balances => (client.balances reply).dispatch

theorem dispatch?_sends {client : Client} {reply : Reply} {call : Call}
    {dispatch : Dispatch} (sent : client.dispatch? reply call = some dispatch) :
    client.Sends dispatch := by
  cases call with
  | listModels => exact (client.listModels_faithful reply).sends dispatch sent
  | getModel id => exact (client.getModel_faithful id reply).sends dispatch sent
  | updateModel id change =>
      exact (client.updateModel_faithful id change reply).sends dispatch sent
  | listProviders => exact (client.listProviders_faithful reply).sends dispatch sent
  | listLogs limit level =>
      exact (client.listLogs_faithful limit level reply).sends dispatch sent
  | balances => exact (client.balances_faithful reply).sends dispatch sent

theorem ofSession_eq_ok {session : Session} {client : Client}
    (accepted : ofSession session = .ok client) :
    client.session = session ∧ Endpoint.isSafe session.baseUrl = true := by
  unfold ofSession Endpoint.validate at accepted
  by_cases safe : Endpoint.isSafe session.baseUrl = true
  · simp only [safe, if_true, Except.ok.injEq] at accepted
    exact ⟨by rw [← accepted], safe⟩
  · simp [safe] at accepted

end Client

end Api

namespace Session

theorem endpoint_toList (session : Session) (path : String) :
    (session.endpoint path).toList =
      session.baseUrl.toList ++ '/' :: path.toList.dropWhile (· == '/') := by
  simp [endpoint]

end Session

namespace Endpoint

/-- No address starts with both schemes. -/
theorem not_masksHost_of_https {address : String} {rest : List Char}
    (secure : address.toList = "https://".toList ++ rest) : ¬ MasksHost address := by
  rintro ⟨plainRest, host, plain, _⟩
  rw [secure] at plain
  cases plain

end Endpoint

namespace Api.Client

/-- Every request with the token goes out over HTTPS or to the local machine, just
when the address of the node does not mask its host. -/
theorem isSafe_iff_not_masksHost {session : Session} {client : Client}
    {reply : Reply} {call : Call} {dispatch : Dispatch}
    (accepted : ofSession session = .ok client)
    (sent : client.dispatch? reply call = some dispatch) :
    dispatch.request.url.IsSafe ↔ ¬ Endpoint.MasksHost session.baseUrl := by
  obtain ⟨rfl, safe⟩ := ofSession_eq_ok accepted
  obtain ⟨path, _, base, parsed, sameScheme, sameHost, _⟩ :=
    (dispatch?_sends sent).target
  have written := client.session.endpoint_toList path
  rw [Url.IsSafe, sameScheme, sameHost]
  rcases Endpoint.isSafe_cases safe with ⟨rest, secure⟩ | ⟨rest, plain, found⟩
  · have https : base.scheme = .https := by
      rw [secure, List.append_assoc] at written
      exact Url.parse_https_scheme written parsed
    simp [https, Endpoint.not_masksHost_of_https secure]
  · obtain ⟨first, others, rfl, firstVisible, firstNoSlash⟩ :=
      Url.first_of_hostOf found
    rw [plain, List.append_assoc] at written
    obtain ⟨http, hostRead⟩ :=
      Url.parse_http_host firstVisible firstNoSlash written parsed
    have starts : Text.afterStart? "http://".toList client.session.baseUrl.toList =
        some (first :: others) := Text.afterStart?_eq_some_iff.mpr plain
    simp only [http, reduceCtorEq, true_and, false_or, Endpoint.MasksHost, starts,
      Option.some.injEq, exists_and_left, exists_eq_left', hostRead, Except.ok.injEq,
      not_and, not_not]
    constructor
    · intro isLocal _
      exact isLocal
    · intro unlessAt
      by_cases masked : '@' ∈ Url.authorityText (first :: others)
      · exact unlessAt masked
      · exact Url.isLocal_of_hostOf found masked hostRead

/-- A session with a node on the local machine. -/
def localSession : Session := ⟨"http://[::1]:8000", some "secret", .config⟩

theorem isSafe_iff_not_masksHost_localSession :
    ofSession localSession = .ok ⟨localSession⟩ ∧
      ∃ dispatch,
        dispatch? ⟨localSession⟩ (.answered 200 []) .listModels = some dispatch ∧
          (dispatch.request.url.IsSafe ↔ ¬ Endpoint.MasksHost localSession.baseUrl) := by
  have accepted : ofSession localSession = .ok ⟨localSession⟩ := rfl
  have sends :
      (dispatch? ⟨localSession⟩ (.answered 200 []) .listModels).isSome = true := by
    decide +kernel
  obtain ⟨dispatch, sent⟩ := Option.isSome_iff_exists.mp sends
  exact ⟨accepted, dispatch, sent, isSafe_iff_not_masksHost accepted sent⟩

/-- A session whose node shows a local name in front of the at sign. -/
def maskedSession : Session := ⟨"http://localhost:x@evil.com", some "secret", .config⟩

/-- What a session with a masked host sends to the machine behind the at sign. -/
def maskedDispatch : Dispatch :=
  { request :=
      { method := .get
        url :=
          { scheme := .http
            credentials := none
            host := .domain "evil.com"
            port := none
            path := ["admin", "api", "models"]
            query := none
            fragment := none }
        authorization := ["Basic bG9jYWxob3N0Ong=", "Bearer secret"]
        body := none }
    reply := .answered 200 [] }

theorem token_reaches_masked_host :
    ofSession maskedSession = .ok ⟨maskedSession⟩ ∧
      dispatch? ⟨maskedSession⟩ (.answered 200 []) .listModels = some maskedDispatch ∧
      bearer "secret" ∈ maskedDispatch.request.authorization ∧
      ¬ maskedDispatch.request.url.IsSafe := by
  refine ⟨rfl, by decide +kernel, by decide, ?_⟩
  simp [Url.IsSafe, maskedDispatch, Url.Host.IsLocal, Url.Host.text, Endpoint.localHosts]

end Api.Client

end NodeAdmin
