import NodeAdmin.Url.Address

/-!
# Addresses on the web

An address in its parts, each already in the form in which it is sent.
-/

namespace NodeAdmin

namespace Url

inductive Scheme where
  | http
  | https
  deriving DecidableEq, Repr

inductive Host where
  | domain (name : String)
  | ipv4 (address : Nat)
  | ipv6 (pieces : List Nat)
  deriving DecidableEq, Repr

def Scheme.text : Scheme → String
  | http => "http"
  | https => "https"

/-- The port that goes without saying. -/
def Scheme.usualPort : Scheme → Nat
  | http => 80
  | https => 443

def Host.text : Host → String
  | domain name => name
  | ipv4 address => ipv4Text address
  | ipv6 pieces => "[" ++ ipv6Text pieces ++ "]"

/-- A name and a password in front of the host. -/
structure Credentials where
  user : String
  password : Option String
  deriving DecidableEq, Repr

/-- Why a text is no address. -/
inductive Problem where
  | relative
  | emptyHost
  | invalidDomain
  | invalidPort
  | invalidIpv4
  | invalidIpv6
  deriving DecidableEq, Repr

def Problem.message : Problem → String
  | relative => "relative URL without a base"
  | emptyHost => "empty host"
  | invalidDomain => "invalid international domain name"
  | invalidPort => "invalid port number"
  | invalidIpv4 => "invalid IPv4 address"
  | invalidIpv6 => "invalid IPv6 address"

end Url

/-- An address. The path is a list of segments that is never empty; the port is
left out when it is the usual one. -/
structure Url where
  scheme : Url.Scheme
  credentials : Option Url.Credentials
  host : Url.Host
  port : Option Nat
  path : List String
  query : Option String
  fragment : Option String
  deriving DecidableEq, Repr

namespace Url

/-- The path in one text. -/
def pathText (url : Url) : String := "/" ++ Text.join "/" url.path

/-- The path and the query, as they are sent to the host. -/
def target (url : Url) : String :=
  url.pathText ++ (match url.query with
    | some query => "?" ++ query
    | none => "")

def Credentials.text (credentials : Credentials) : String :=
  credentials.user ++ (match credentials.password with
    | some password => ":" ++ password
    | none => "") ++ "@"

/-- The whole address in one text. -/
def text (url : Url) : String :=
  url.scheme.text ++ "://" ++
    (match url.credentials with
      | some credentials => credentials.text
      | none => "") ++
    url.host.text ++
    (match url.port with
      | some port => ":" ++ String.ofList (Nat.toDigits 10 port)
      | none => "") ++
    url.target ++
    (match url.fragment with
      | some fragment => "#" ++ fragment
      | none => "")

/-- The address without a name and a password. -/
def withoutCredentials (url : Url) : Url := { url with credentials := none }

end Url

end NodeAdmin
