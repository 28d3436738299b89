import NodeAdmin.CommandLine.Command
import NodeAdmin.CommandLine.Teardown
import NodeAdmin.Console.Render
import NodeAdmin.Word.Bounds

/-!
# Commands about a node

These commands ask a node for something, or have it change a model, and show its
answer as text or as JSON. Replies are numbered in the order of the requests of a
run.
-/

namespace NodeAdmin.CommandLine

/-- What a command about a node is run with. -/
structure Setting where
  options : OutputOptions
  environment : NodeEnvironment
  replies : Nat → Api.Reply
  writing : WriteOutcome

/-- An answer as text or as JSON. -/
def present (options : OutputOptions) (words : String) (document : Json) : String :=
  match options.format with
  | .text => words ++ "\n"
  | .json => options.jsonLine document

/-- Runs a command with a client, if there is one. -/
def withClient (setting : Setting) (file : StoredFile)
    (run : Api.Client → Outcome) : Outcome :=
  match connect setting.environment file with
  | .ok client => run client
  | .error failure => .failed file failure

/-! ## Costs -/

/-- The model as the query wants it priced. -/
def CostQuery.adjust (query : CostQuery) (model : Model) : Model :=
  let priced := model.apply query.prices.toOverride
  match query.contextLength with
  | some length =>
      let largest := Word.signedBound64 - 1
      { priced with contextLength := some (Int64.ofInt (min (length.toNat : Int) largest)) }
  | none => priced

/-- Prices a request against a model. -/
def priceWith (options : OutputOptions) (query : CostQuery) (file : StoredFile)
    (model : Model) : Outcome :=
  let report :=
    CostReport.build (query.adjust model) query.inputTokens query.outputTokens
  let printed := present options (Console.renderCost options.colour report) report.toJson
  let issues := String.join (report.model.pricingIssues.map fun issue => issue ++ "\n")
  { Outcome.done file printed with
    noted := if options.format = .json ∧ options.verbose then issues else "" }

def runCost (setting : Setting) (query : CostQuery) (file : StoredFile) : Outcome :=
  if query.offline then
    priceWith setting.options query file (Model.ofPrices query.model Double.zero Double.zero)
  else
    withClient setting file fun client =>
      proceed setting.writing client file
        (client.getModel query.model (setting.replies 0))
        (priceWith setting.options query file)

/-! ## Models -/

def runModels (setting : Setting) (provider : Option String) (all : Bool)
    (file : StoredFile) : Outcome :=
  withClient setting file fun client =>
    proceed setting.writing client file (client.listModels (setting.replies 0)) fun models =>
      let groups := Catalog.group (Catalog.select provider all models)
      .done file (present setting.options
        (Console.renderModelGroups setting.options.colour groups)
        (.array (groups.map ProviderGroup.toJson)))

/-- Stores an override and shows the changed model. -/
def storeOverride (setting : Setting) (client : Api.Client) (id : String)
    (change : ModelOverride) (reply : Api.Reply) (file : StoredFile) : Outcome :=
  if change.isEmpty then
    .failed file ⟨"Nothing to update for '" ++ id ++ "'", []⟩
  else
    proceed setting.writing client file (client.updateModel id change reply) fun model =>
      let groups := Catalog.group [model]
      .done file (present setting.options
        ("Updated " ++ model.id ++ "\n" ++
          Console.renderModelGroups setting.options.colour groups)
        model.toJson)

/-- The override with the minimum that suits the model once it is changed. -/
def recommendMinimum (change : ModelOverride) (model : Model) : ModelOverride :=
  { change with minimum := some (model.apply change).recommendedMinimum }

def runUpdate (setting : Setting) (update : ModelUpdate) (file : StoredFile) : Outcome :=
  withClient setting file fun client =>
    let change := update.toOverride
    if update.recommendedMinimum then
      proceed setting.writing client file
          (client.getModel update.model (setting.replies 0)) fun model =>
        storeOverride setting client update.model (recommendMinimum change model)
          (setting.replies 1) file
    else storeOverride setting client update.model change (setting.replies 0) file

/-! ## Providers, logs and balances -/

def runProviders (setting : Setting) (file : StoredFile) : Outcome :=
  withClient setting file fun client =>
    proceed setting.writing client file (client.listProviders (setting.replies 0)) fun providers =>
      .done file (present setting.options
        (Console.renderProviders setting.options.colour providers)
        (.array (providers.map Provider.toJson)))

/-- The levels that log entries can be asked for. -/
def logLevels : List String := ["debug", "info", "warning", "error", "critical"]

def isLogLevel (level : String) : Bool := logLevels.contains (Text.toLower level)

def unknownLevel (level : String) : Failure :=
  ⟨"Invalid level '" ++ level ++ "' (must be one of " ++ Text.join "|" logLevels ++ ")", []⟩

/-- Shows log entries. The level is looked at before the configuration is. -/
def runLogs (setting : Setting) (limit : Nat) (level : Option String)
    (file : StoredFile) : Outcome :=
  match level.filter fun level => !isLogLevel level with
  | some level => .failed file (unknownLevel level)
  | none =>
      withClient setting file fun client =>
        proceed setting.writing client file
            (client.listLogs limit level (setting.replies 0)) fun entries =>
          .done file (present setting.options
            (Console.renderLogs setting.options.colour entries)
            (.array (entries.map LogEntry.toJson)))

def runBalance (setting : Setting) (file : StoredFile) : Outcome :=
  withClient setting file fun client =>
    proceed setting.writing client file (client.balances (setting.replies 0)) fun summary =>
      .done file (present setting.options
        (Console.renderBalances setting.options.colour summary) summary.toJson)

end NodeAdmin.CommandLine
