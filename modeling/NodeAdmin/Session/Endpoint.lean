import NodeAdmin.Text.Pieces

/-!
# Safe endpoints

The admin token goes out with every request, so a node must be reached over
HTTPS. Plain HTTP is fine on the local machine only.
-/

namespace NodeAdmin

/-- Why a node address is refused. -/
inductive EndpointError where
  | insecure (url : String)
  deriving DecidableEq, Repr

def EndpointError.message : EndpointError → String
  | insecure url => s!"node URL must use HTTPS (or http://localhost), got: {url}"

namespace Endpoint

/-- The names of the local machine. -/
def localHosts : List String := ["localhost", "127.0.0.1", "[::1]"]

/-- The host at the front of a text that follows `http://`: a bracketed address
is closed at its bracket, and any other host ends at a colon or a slash. -/
def hostOf (text : List Char) : List Char :=
  let authority := text.takeWhile (· != '/')
  match authority with
  | '[' :: _ => authority.takeWhile (· != ']') ++ [']']
  | _ => authority.takeWhile (· != ':')

/-- Whether a token may be sent to an address. -/
def isSafe (url : String) : Bool :=
  match Text.afterStart? "https://".toList url.toList with
  | some _ => true
  | none =>
      match Text.afterStart? "http://".toList url.toList with
      | some rest => localHosts.contains (String.ofList (hostOf rest))
      | none => false

/-- Refuses an address that is not safe. -/
def validate (url : String) : Except EndpointError Unit :=
  if isSafe url then .ok () else .error (.insecure url)

end Endpoint

end NodeAdmin
