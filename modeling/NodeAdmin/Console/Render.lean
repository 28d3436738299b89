import NodeAdmin.Console.Style
import NodeAdmin.Cost.Report
import NodeAdmin.Node.Balance
import NodeAdmin.Node.LogEntry
import NodeAdmin.Node.Provider

/-!
# Texts for the operator

The human-readable form of each answer, with or without colour.
-/

namespace NodeAdmin.Console

/-! ## Costs -/

def pricesLine (colour : Bool) (model : Model) : String :=
  let price (value : Double) : String :=
    Amount.pricePerMillion value ++ " (" ++
      Amount.cost (perMillionToPerToken value) ++ "/token)"
  "  " ++ styled colour .cyan "Prices" ++ "    in " ++ price model.inputPrice ++
    "  out " ++ price model.outputPrice

def costLine (colour : Bool) (charge : Charge) : String :=
  let mark :=
    if charge.minimumApplied then " " ++ styled colour .yellow "(minimum applied)"
    else ""
  "  " ++ styled colour .cyan "Cost" ++ "      " ++ Amount.cost charge.finalCost ++ mark

/-- The lines about a floor above zero. -/
def minimumLines (colour : Bool) (report : CostReport) : List String :=
  let estimate := report.estimate
  if report.charge.minimum.isPositive then
    ["  " ++ styled colour .cyan "Minimum" ++ "   " ++
        Amount.cost report.charge.minimum ++ " per request (recommended " ++
        Amount.cost report.recommendedMinimum ++ ")",
      "  " ++ styled colour .cyan "Reaches" ++ "   " ++
        Amount.tokens estimate.inputOnly ++ " input or " ++
        Amount.tokens estimate.outputOnly ++ " output or " ++
        Amount.tokens estimate.balancedInput ++ " + " ++
        Amount.tokens estimate.balancedOutput ++ " tokens"]
  else []

/-- The cost of one request. -/
def renderCost (colour : Bool) (report : CostReport) : String :=
  Text.join "\n"
    ([styled colour .bold (" " ++ report.model.displayName),
      "  " ++ styled colour .cyan "Tokens" ++ "    " ++
        Amount.tokens report.inputTokens ++ " in / " ++
        Amount.tokens report.outputTokens ++ " out",
      pricesLine colour report.model,
      costLine colour report.charge] ++
      (if report.breakdown.isEmpty then []
        else ["  " ++ styled colour .cyan "Breakdown" ++ " " ++ report.breakdown]) ++
      minimumLines colour report ++
      (report.validation.message.toList.map fun message =>
        "  " ++ styled colour .dimmed message) ++
      report.model.pricingIssues.map fun issue => "  " ++ styled colour .red issue)

/-! ## Models -/

def enabledMark (colour enabled : Bool) : String :=
  if enabled then styled colour .green "●" else styled colour .dimmed "○"

/-- The width of the longest name. -/
def nameWidth (models : List Model) : Nat :=
  models.foldl (fun width model => Nat.max width model.displayName.length) 0

def modelLine (colour : Bool) (width : Nat) (model : Model) : String :=
  let context := match model.contextWindow with
    | some window => "  " ++ styled colour .cyan "ctx" ++ " " ++ Amount.tokens window
    | none => ""
  "  " ++ enabledMark colour model.enabled ++ " " ++
    String.ofList (padRight width model.displayName.toList) ++ "  " ++
    styled colour .cyan "in" ++ " " ++ Amount.pricePerMillion model.inputPrice ++ "  " ++
    styled colour .cyan "out" ++ " " ++ Amount.pricePerMillion model.outputPrice ++ "  " ++
    styled colour .cyan "min" ++ " " ++ Amount.cost model.minimumCharge ++ context

def groupLines (colour : Bool) (group : ProviderGroup) : List String :=
  let count := group.models.length
  let noun := if count = 1 then "model" else "models"
  let width := nameWidth group.models
  styled colour .bold s!" {group.provider} ({count} {noun})" ::
    group.models.flatMap fun model =>
      modelLine colour width model ::
        model.pricingIssues.map fun issue => "    " ++ styled colour .red issue

/-- The catalog, one section for each provider. -/
def renderModelGroups (colour : Bool) (groups : List ProviderGroup) : String :=
  if groups.isEmpty then "No models found."
  else Text.join "\n\n" (groups.map fun group => Text.join "\n" (groupLines colour group))

/-! ## Providers -/

def providerLine (colour : Bool) (provider : Provider) : String :=
  let key := if provider.hasApiKey then "key set" else styled colour .red "no key"
  let fee := match provider.fee with
    | some fee => "  fee x" ++ fee.fixedText 2
    | none => ""
  " " ++ enabledMark colour provider.enabled ++ " " ++
    String.ofList (padLeft 3 (Json.integerText provider.id.toInt)) ++ "  " ++
    styledTo 12 colour (some .bold) provider.kind ++ " " ++ provider.baseUrl ++ "  " ++
    key ++ fee

def renderProviders (colour : Bool) (providers : List Provider) : String :=
  if providers.isEmpty then "No upstream providers configured."
  else Text.join "\n" (providers.map (providerLine colour))

/-! ## Logs -/

/-- The style of a level, if it has one. -/
def levelStyle (level : String) : Option Style :=
  let raised := Text.toUpper level
  if ["ERROR", "CRITICAL"].contains raised then some .boldRed
  else if ["WARNING", "WARN"].contains raised then some .yellow
  else if raised = "DEBUG" then some .dimmed
  else none

def logLine (colour : Bool) (entry : LogEntry) : String :=
  let time := match entry.timestamp with
    | some instant => styled colour .dimmed instant.shown ++ " "
    | none => ""
  let level := entry.levelOrDefault
  let name := match entry.name with
    | some name => " " ++ styled colour .cyan name
    | none => ""
  let request := match entry.requestId with
    | some request => "  " ++ styled colour .dimmed ("request_id=" ++ request)
    | none => ""
  let extra :=
    if entry.extra.isEmpty then ""
    else "  " ++ styled colour .dimmed (Text.join " " entry.extraPairs)
  time ++ styledTo 8 colour (levelStyle level) level ++ name ++ " " ++ entry.message ++
    request ++ extra

/-- One line for each entry. -/
def renderLogs (colour : Bool) (entries : List LogEntry) : String :=
  if entries.isEmpty then "No log entries."
  else Text.join "\n" (entries.map (logLine colour))

/-! ## Balances -/

def mintLine (colour : Bool) (mint : MintBalance) : String :=
  match mint.error with
  | some error => "    " ++ mint.mintUrl ++ "  " ++ styled colour .red error
  | none =>
      "    " ++ mint.mintUrl ++ "  wallet " ++ Amount.balance mint.wallet mint.unit ++
        "  users " ++ Amount.balance mint.users mint.unit ++ "  owner " ++
        Amount.balance mint.owner mint.unit

def renderBalances (colour : Bool) (summary : BalanceSummary) : String :=
  Text.join "\n"
    ([styled colour .bold " Balances",
      "  " ++ styled colour .cyan "Wallet" ++ "    " ++
        Amount.balance summary.wallet summary.unit,
      "  " ++ styled colour .cyan "Users" ++ "     " ++
        Amount.balance summary.users summary.unit,
      "  " ++ styled colour .cyan "Owner" ++ "     " ++
        Amount.balance summary.owner summary.unit] ++
      (if summary.mints.isEmpty then []
        else ("  " ++ styled colour .cyan "By Mint" ++ ":") ::
          summary.mints.map (mintLine colour)))

end NodeAdmin.Console
