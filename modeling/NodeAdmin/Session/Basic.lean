import NodeAdmin.Config.Basic

/-!
# Sessions

A session ties one node to one token. Values from the environment take the
place of those in the configuration unless they are blank.
-/

namespace NodeAdmin

/-- Where the token of a session came from. -/
inductive TokenSource where
  | config
  | environment
  | none
  deriving DecidableEq, Repr

structure Session where
  baseUrl : String
  token : Option String
  source : TokenSource
  deriving DecidableEq, Repr

/-- What the environment says about the node. -/
structure NodeEnvironment where
  url : Option String
  token : Option String
  deriving DecidableEq, Repr

namespace Session

/-- The name of the variable that holds a token. -/
def tokenVariable : String := "ROUTSTR_ADMIN_TOKEN"

/-- The name of the variable that holds the address of the node. -/
def urlVariable : String := "ROUTSTR_ADMIN_URL"

/-- A value that is more than blanks; its blanks stay. -/
def meaningful (value : Option String) : Option String :=
  value.filter fun text => !Text.isAllBlank text

/-- The token to send, and where it came from. -/
def chooseToken (stored given : Option String) : Option String × TokenSource :=
  match meaningful given, meaningful stored with
  | some token, _ => (some token, .environment)
  | none, some token => (some token, .config)
  | none, none => (none, .none)

/-- The session for a configuration in an environment. -/
def resolve (config : Config) (environment : NodeEnvironment) : Session :=
  let address := (meaningful environment.url).getD config.node.baseUrl
  let token := chooseToken config.node.token environment.token
  { baseUrl := Text.dropTrailingSlashes address
    token := token.1
    source := token.2 }

/-- The address of a path on the node, with one slash between the two. -/
def endpoint (session : Session) (path : String) : String :=
  session.baseUrl ++ "/" ++ String.ofList (path.toList.dropWhile (· == '/'))

end Session

end NodeAdmin
