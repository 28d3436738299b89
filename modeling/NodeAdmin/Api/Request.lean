import NodeAdmin.Text.Base64
import NodeAdmin.Url.Reading

/-!
# Requests and replies

What goes out to a node and what comes back. Every request carries the token of
its session.
-/

namespace NodeAdmin.Api

inductive Method where
  | get
  | patch
  deriving DecidableEq, Repr

def Method.text : Method → String
  | get => "GET"
  | patch => "PATCH"

/-- A request before the token is put in. -/
structure Draft where
  method : Method
  url : Url
  body : Option String
  deriving DecidableEq, Repr

/-- A request as it goes out. -/
structure Request where
  method : Method
  url : Url
  /-- The values of the Authorization headers, in order. -/
  authorization : List String
  body : Option String
  deriving DecidableEq, Repr

/-- Answers are wanted as JSON. -/
def Request.accept (_ : Request) : String := "application/json"

/-- Bodies are JSON. -/
def Request.contentType (request : Request) : Option String :=
  request.body.map fun _ => "application/json"

/-- Whether a header can hold a text: control characters other than tabs cannot
be sent. -/
def isHeaderText (text : String) : Bool :=
  text.toList.all fun character =>
    character == '\t' || (32 ≤ character.toNat && character.toNat != 127)

def bearer (token : String) : String := "Bearer " ++ token

/-- The header value for a name and a password that stood in an address. -/
def basic (credentials : Url.Credentials) : String :=
  let bytes (part : String) : List UInt8 := Url.percentDecode part.toList
  let colon : List UInt8 := [58]
  "Basic " ++ String.ofList
    (Text.base64 (bytes credentials.user ++ colon ++ bytes (credentials.password.getD "")))

/-- The request of a draft. A name and a password leave the address and become a
header of their own in front of the token. -/
def Draft.withToken (draft : Draft) (token : String) : Request where
  method := draft.method
  url := draft.url.withoutCredentials
  authorization := (draft.url.credentials.map basic).toList ++ [bearer token]
  body := draft.body

/-- What becomes of a request: a node answers it, or it reaches no node. The hops that
the transport makes on its own where it is redirected lie behind the answer. -/
inductive Reply where
  | answered (status : Nat) (body : List UInt8)
  | failed (causes : List String)
  deriving DecidableEq, Repr

/-- A request that went out, and the reply to it. -/
structure Dispatch where
  request : Request
  reply : Reply
  deriving DecidableEq, Repr

/-- Whether the request reached a node. -/
def Dispatch.arrived (dispatch : Dispatch) : Bool :=
  match dispatch.reply with
  | .answered _ _ => true
  | .failed _ => false

end NodeAdmin.Api
