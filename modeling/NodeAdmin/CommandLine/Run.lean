import NodeAdmin.CommandLine.Administering
import NodeAdmin.CommandLine.Configuring

/-!
# Running the tool

One run takes arguments, an environment and the configuration file, and leaves an
outcome.
-/

namespace NodeAdmin.CommandLine

/-- What surrounds a run. A run writes its file at most once. -/
structure Surroundings where
  path : String
  environment : NodeEnvironment
  destination : Destination
  replies : Nat → Api.Reply
  /-- What comes of the attempt to write the configuration file, if there is one. -/
  writing : WriteOutcome := .carriedOut

/-- How the answers of a run are printed. A configuration that cannot be read has
no say in it. -/
def outputOptions (surroundings : Surroundings) (invocation : Invocation)
    (file : StoredFile) : OutputOptions :=
  let settings := file.settings
  { format :=
      if invocation.json then .json
      else .ofName (invocation.format.getD settings.defaultFormat)
    pretty := invocation.pretty
    colour := wantsColour (!invocation.noColour) settings.colour surroundings.destination
    verbose := invocation.verbose }

/-- What a command about a node is run with. -/
def Surroundings.setting (surroundings : Surroundings) (invocation : Invocation)
    (file : StoredFile) : Setting where
  options := outputOptions surroundings invocation file
  environment := surroundings.environment
  replies := surroundings.replies
  writing := surroundings.writing

/-- Runs a command. -/
def run (surroundings : Surroundings) (invocation : Invocation) (file : StoredFile) :
    Outcome :=
  let options := outputOptions surroundings invocation file
  let setting := surroundings.setting invocation file
  let path := surroundings.path
  let writing := surroundings.writing
  match invocation.command with
  | .cost query => runCost setting query file
  | .models provider all => runModels setting provider all file
  | .update update => runUpdate setting update file
  | .providers => runProviders setting file
  | .logs limit level => runLogs setting limit level file
  | .balance => runBalance setting file
  | .configInit url => configInit writing path url file
  | .configCheck => configCheck options path file
  | .configLogin token => configLogin writing options path token file
  | .configLogout => configLogout writing file
  | .configSetUrl url => configSetUrl writing path url file

/-! ## Without a command -/

def versionText : String := "routstr-admin 0.1.0\n"

def helpText : String :=
  "Admin CLI for Routstr nodes\n\n" ++
    "Usage: routstr-admin [OPTIONS] <COMMAND>\n\n" ++
    "Commands:\n" ++
    "  cost       Price a request against a model\n" ++
    "  models     List models grouped by provider, or update one\n" ++
    "  providers  List upstream providers\n" ++
    "  logs       Show recent node logs\n" ++
    "  balance    Show node balances\n" ++
    "  config     Manage configuration\n"

/-- What a run prints, notes and answers to its caller. -/
structure Answer where
  exitCode : Nat
  standardOutput : String
  standardError : String
  requests : List Api.Request
  file : StoredFile
  deriving DecidableEq, Repr

def Outcome.answer (outcome : Outcome) : Answer where
  exitCode := outcome.exitCode
  standardOutput := outcome.standardOutput
  standardError := outcome.standardError
  requests := outcome.arrivals
  file := outcome.file

/-- The answer to arguments that name no command to run. -/
def Stop.answer (stop : Stop) (file : StoredFile) : Answer :=
  match stop with
  | .misuse => ⟨2, "", helpText, [], file⟩
  | .help => ⟨0, helpText, "", [], file⟩
  | .version => ⟨0, versionText, "", [], file⟩

/-- The answer to arguments. -/
def answer (surroundings : Surroundings) (arguments : List String) (file : StoredFile) :
    Answer :=
  match parse arguments with
  | .ok invocation => (run surroundings invocation file).answer
  | .error stop => stop.answer file

end NodeAdmin.CommandLine
