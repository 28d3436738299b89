import NodeAdmin.Api.Request
import NodeAdmin.Json.Tree
import NodeAdmin.Session.Endpoint

/-!
# What can go wrong with a call

Every error has a message and the causes behind it, the nearest one first.
-/

namespace NodeAdmin.Api

/-- Why no answer came back. -/
inductive TransportFailure where
  | unparsable (problem : Url.Problem)
  | invalidHeader
  | unsent (url : String) (causes : List String)
  deriving DecidableEq, Repr

inductive ApiError where
  | missingToken
  | unauthorized
  | http (status : Nat) (url body : String)
  | modelNotFound (id : String)
  | insecureEndpoint (error : EndpointError)
  | unparsableEndpoint (url : String) (problem : Url.Problem)
  | transport (failure : TransportFailure)
  | decode (url : String) (fault : Json.Fault)
  deriving DecidableEq, Repr

/-- What happened and why, from the outside inwards. -/
def TransportFailure.trail : TransportFailure → List String
  | unparsable problem => ["builder error", problem.message]
  | invalidHeader => ["builder error", "failed to parse header value"]
  | unsent url causes => s!"error sending request for url ({url})" :: causes

def faultText : Json.Fault → String
  | .malformed => "the text is not JSON"
  | .truncated => "the text ends too early"
  | .mismatched => "the document has another shape"

namespace ApiError

/-- Whether the node refused the token. -/
def isUnauthorized (error : ApiError) : Bool := error == unauthorized

def message : ApiError → String
  | missingToken =>
      "No admin token configured. Run `routstr-admin config login --token <TOKEN>`"
  | unauthorized => "Unauthorized - the node rejected the admin token"
  | http status url body =>
      "HTTP " ++ String.ofList (Nat.toDigits 10 status) ++ " from " ++ url ++ ": " ++ body
  | modelNotFound id => "Model not found: " ++ id
  | insecureEndpoint error => "Invalid node URL: " ++ error.message
  | unparsableEndpoint url problem => "Invalid node URL: " ++ url ++ ": " ++ problem.message
  | transport failure => "Request failed: " ++ failure.trail.headD ""
  | decode url fault => "Failed to parse response from " ++ url ++ ": " ++ faultText fault

def causes : ApiError → List String
  | transport failure => failure.trail
  | decode _ fault => [faultText fault]
  | _ => []

end ApiError

end NodeAdmin.Api
