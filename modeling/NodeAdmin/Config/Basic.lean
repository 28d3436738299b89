import NodeAdmin.Session.Endpoint

/-!
# Configurations

What the tool remembers between runs: how to print, where the node is, and the
token that the node accepts.
-/

namespace NodeAdmin

/-- How answers are printed unless the command line says otherwise. -/
structure Settings where
  defaultFormat : String
  colour : String
  deriving DecidableEq, Repr

def Settings.standard : Settings := ⟨"text", "auto"⟩

/-- The node that is administered, and the token for it. -/
structure NodeAccess where
  baseUrl : String
  token : Option String
  deriving DecidableEq, Repr

def NodeAccess.standard : NodeAccess := ⟨"http://localhost:8000", none⟩

structure Config where
  settings : Settings
  node : NodeAccess
  deriving DecidableEq, Repr

namespace Config

def standard : Config := ⟨Settings.standard, NodeAccess.standard⟩

/-- The configuration with another address for the node. -/
def setBaseUrl (baseUrl : String) (config : Config) : Config :=
  { config with node := { config.node with baseUrl := baseUrl } }

def setToken (token : String) (config : Config) : Config :=
  { config with node := { config.node with token := some token } }

/-- The configuration without its token. -/
def clearToken (config : Config) : Config :=
  { config with node := { config.node with token := none } }

def hasToken (config : Config) : Bool := config.node.token.isSome

def formatNames : List String := ["text", "json"]

def colourNames : List String := ["auto", "always", "never"]

/-- What is wrong with a configuration that could be read. -/
def issues (config : Config) : List String :=
  let format := config.settings.defaultFormat
  let colour := config.settings.colour
  (if formatNames.contains format then []
    else [s!"Invalid default_format: '{format}' (must be 'text' or 'json')"]) ++
  (if colourNames.contains colour then []
    else [s!"Invalid color: '{colour}' (must be 'auto', 'always', or 'never')"]) ++
  (match Endpoint.validate config.node.baseUrl with
    | .ok _ => []
    | .error error => [s!"Invalid base_url: {error.message}"]) ++
  (match config.node.token with
    | some token => if Text.isAllBlank token then ["Token is set but empty"] else []
    | none => [])

end Config

end NodeAdmin
