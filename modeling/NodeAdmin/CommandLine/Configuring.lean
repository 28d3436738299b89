import NodeAdmin.CommandLine.Outcome

/-!
# Commands about the configuration

These commands read the configuration file, change it and write it again. They
never talk to a node.
-/

namespace NodeAdmin.CommandLine

/-- Starts a configuration file where there is none. -/
def configInit (writing : WriteOutcome) (path : String) (url : Option String)
    (file : StoredFile) : Outcome :=
  if file.isPresent then
    .remark file ("Config file already exists at " ++ path ++
      "\nRemove it first if you want to regenerate.\n")
  else
    match url.mapM fun url => (Endpoint.validate url).map fun _ => url with
    | .error error => .failed file (.ofEndpoint error)
    | .ok url =>
        let config := match url with
          | some url => Config.standard.setBaseUrl (Text.dropTrailingSlashes url)
          | none => Config.standard
        match file.save writing config with
        | .error error =>
            .failed file ((Failure.ofConfig error).within "Failed to generate config")
        | .ok saved =>
            .done saved ("Generated config at " ++ path ++ "\n  Node: " ++
              config.node.baseUrl ++
              "\n  Run `routstr-admin config login --token <TOKEN>` to authenticate.\n")

/-- The configuration for another node. A token belongs to one node and does not
follow to another. -/
def pointTo (url : String) (config : Config) : Config :=
  if config.node.baseUrl = url then config else config.clearToken.setBaseUrl url

/-- Points the tool at a node. -/
def configSetUrl (writing : WriteOutcome) (path url : String) (file : StoredFile) :
    Outcome :=
  match Endpoint.validate url with
  | .error error => .failed file (.ofEndpoint error)
  | .ok _ =>
      match file.load with
      | .error error => .failed file (.ofConfig error)
      | .ok config =>
          let url := Text.dropTrailingSlashes url
          let changed := pointTo url config
          let notice :=
            if config.hasToken && !changed.hasToken then
              "Node changed, stored token removed.\n"
            else ""
          match file.save writing changed with
          | .error error =>
              { Outcome.failed file (.ofConfig error) with printed := notice }
          | .ok saved =>
              .done saved (notice ++ "Node set to " ++ url ++ " (" ++ path ++ ")\n")

/-- The answer to a login as a document. -/
def loginReport (path : String) : Json :=
  .object [("path", .string path), ("token_saved", .bool true)]

/-- Stores a token. -/
def configLogin (writing : WriteOutcome) (options : OutputOptions) (path token : String)
    (file : StoredFile) : Outcome :=
  let token := Text.trim token
  if token.isEmpty then .failed file ⟨"Token must not be empty", []⟩
  else
    match file.load with
    | .error error => .failed file (.ofConfig error)
    | .ok config =>
        match file.save writing (config.setToken token) with
        | .error error => .failed file (.ofConfig error)
        | .ok saved =>
            .done saved (match options.format with
              | .text => "Token saved to " ++ path ++ "\n"
              | .json => options.jsonLine (loginReport path))

/-- Forgets the token. -/
def configLogout (writing : WriteOutcome) (file : StoredFile) : Outcome :=
  match file.load with
  | .error error => .failed file (.ofConfig error)
  | .ok config =>
      if config.hasToken then
        match file.save writing config.clearToken with
        | .error error => .failed file (.ofConfig error)
        | .ok saved => .done saved "Logged out.\n"
      else .remark file "No token stored.\n"

/-! ## Checking -/

/-- What there is to say about a configuration file. -/
structure ConfigReport where
  path : String
  isPresent : Bool
  isValid : Bool
  baseUrl : Option String
  hasToken : Bool
  issues : List String
  deriving DecidableEq, Repr

namespace ConfigReport

/-- The report on a file. -/
def ofFile (path : String) (file : StoredFile) : ConfigReport :=
  if file.isPresent then
    match file.load with
    | .ok config =>
        { path := path
          isPresent := true
          isValid := config.issues.isEmpty
          baseUrl := some config.node.baseUrl
          hasToken := config.hasToken
          issues := config.issues }
    | .error error =>
        { path := path
          isPresent := true
          isValid := false
          baseUrl := none
          hasToken := false
          issues := ["Failed to load config: " ++ error.message] }
  else
    { path := path
      isPresent := false
      isValid := false
      baseUrl := none
      hasToken := false
      issues := ["No config file found"] }

def toJson (report : ConfigReport) : Json :=
  .object
    [("path", .string report.path), ("exists", .bool report.isPresent),
      ("valid", .bool report.isValid),
      ("base_url", match report.baseUrl with
        | some baseUrl => .string baseUrl
        | none => .null),
      ("token_set", .bool report.hasToken),
      ("issues", .array (report.issues.map .string))]

/-- A file that is there is rejected if it is not valid. -/
def ending (report : ConfigReport) : Ending :=
  if report.isPresent && !report.isValid then .rejected else .success

/-- What is said about a valid file. -/
def validText (report : ConfigReport) : String :=
  "Config is valid: " ++ report.path ++ "\n" ++
    (match report.baseUrl with
      | some baseUrl => "  Node: " ++ baseUrl ++ "\n"
      | none => "") ++
    (if report.hasToken then "  Token: set\n" else "  Token: not set\n")

def issuesText (report : ConfigReport) : String :=
  "Config issues found in " ++ report.path ++ ":\n" ++
    String.join (report.issues.map fun issue => "  - " ++ issue ++ "\n")

def missingText (report : ConfigReport) : String :=
  "No config file found at " ++ report.path ++
    "\nRun `routstr-admin config init` to create one.\n"

/-- The report in words: praise is printed and complaints are noted. -/
def words (report : ConfigReport) : String × String :=
  if !report.isPresent then ("", report.missingText)
  else if report.isValid then (report.validText, "")
  else ("", report.issuesText)

end ConfigReport

/-- Checks the configuration file. -/
def configCheck (options : OutputOptions) (path : String) (file : StoredFile) : Outcome :=
  let report := ConfigReport.ofFile path file
  let (printed, noted) := match options.format with
    | .json => (options.jsonLine report.toJson, "")
    | .text => report.words
  ⟨report.ending, printed, noted, [], file⟩

end NodeAdmin.CommandLine
