import NodeAdmin.CommandLine.Arguments
import NodeAdmin.Model.Override

/-!
# Commands

What the arguments ask for, with every option in its own type.
-/

namespace NodeAdmin.CommandLine

/-- Prices as the operator typed them. -/
structure Prices where
  input : Option Double
  output : Option Double
  minimum : Option Double
  unit : PriceUnit
  deriving DecidableEq, Repr

/-- The override that sets these prices. -/
def Prices.toOverride (prices : Prices) : ModelOverride :=
  ModelOverride.ofPrices prices.input prices.output prices.minimum prices.unit

/-- A request to price. -/
structure CostQuery where
  model : String
  inputTokens : UInt64
  outputTokens : UInt64
  prices : Prices
  contextLength : Option UInt64
  offline : Bool
  deriving DecidableEq, Repr

/-- A change to store for a model. -/
structure ModelUpdate where
  model : String
  name : Option String
  enabled : Option Bool
  prices : Prices
  recommendedMinimum : Bool
  deriving DecidableEq, Repr

/-- The override of an update, apart from a recommended minimum. -/
def ModelUpdate.toOverride (update : ModelUpdate) : ModelOverride :=
  { update.prices.toOverride with name := update.name, enabled := update.enabled }

inductive Command where
  | cost (query : CostQuery)
  | models (provider : Option String) (all : Bool)
  | update (update : ModelUpdate)
  | providers
  | logs (limit : Nat) (level : Option String)
  | balance
  | configInit (url : Option String)
  | configCheck
  | configLogin (token : String)
  | configLogout
  | configSetUrl (url : String)
  deriving DecidableEq, Repr

/-- A command and how to print its answer. -/
structure Invocation where
  command : Command
  format : Option String
  json : Bool
  pretty : Bool
  noColour : Bool
  verbose : Bool
  deriving DecidableEq, Repr

namespace Given

def value? (choice : Choice) (given : Given) : Option Value :=
  (given.values.find? (·.1 == choice)).map (·.2)

def has (choice : Choice) (given : Given) : Bool := (given.value? choice).isSome

def text? (choice : Choice) (given : Given) : Option String :=
  match given.value? choice with
  | some (.text value) => some value
  | _ => none

def count? (choice : Choice) (given : Given) : Option UInt64 :=
  match given.value? choice with
  | some (.count value) => some value
  | _ => none

def limit? (choice : Choice) (given : Given) : Option Nat :=
  match given.value? choice with
  | some (.limit value) => some value
  | _ => none

def number? (choice : Choice) (given : Given) : Option Double :=
  match given.value? choice with
  | some (.number value) => some value
  | _ => none

def unit? (choice : Choice) (given : Given) : Option PriceUnit :=
  match given.value? choice with
  | some (.unit value) => some value
  | _ => none

def operand (given : Given) : String := given.operands.headD ""

def prices (given : Given) : Prices where
  input := given.number? .inputPrice
  output := given.number? .outputPrice
  minimum := given.number? .minCost
  unit := (given.unit? .unit).getD .perMillion

/-- Whether to enable or disable a model, if either is asked for. -/
def enabled? (given : Given) : Option Bool :=
  if given.has .enable then some true
  else if given.has .disable then some false
  else none

/-- How many log entries to ask for unless told otherwise. -/
def usualLimit : Nat := 50

/-- The command of the innermost scope. -/
def command? (given : Given) : Option Command :=
  match given.scope with
  | .tool | .config => none
  | .cost => some (.cost
      { model := given.operand
        inputTokens := (given.count? .inputTokens).getD 0
        outputTokens := (given.count? .outputTokens).getD 0
        prices := given.prices
        contextLength := given.count? .contextLength
        offline := given.has .offline })
  | .models => some (.models (given.text? .provider) (given.has .all))
  | .update => some (.update
      { model := given.operand
        name := given.text? .name
        enabled := given.enabled?
        prices := given.prices
        recommendedMinimum := given.has .recommendedMin })
  | .providers => some .providers
  | .logs => some (.logs ((given.limit? .limit).getD usualLimit) (given.text? .level))
  | .balance => some .balance
  | .init => some (.configInit (given.text? .url))
  | .check => some .configCheck
  | .login => (given.text? .token).map .configLogin
  | .logout => some .configLogout
  | .setUrl => some (.configSetUrl given.operand)

end Given

/-- The invocation of what the scopes were given, the innermost first. Common
options count in every scope, and the innermost format wins. -/
def invocation? (givens : List Given) : Option Invocation := do
  let command ← (← givens.head?).command?
  some
    { command := command
      format := givens.findSome? (·.text? .format)
      json := givens.any (·.has .json)
      pretty := givens.any (·.has .pretty)
      noColour := givens.any (·.has .noColour)
      verbose := givens.any (·.has .verbose) }

/-- The invocation that arguments ask for. -/
def parse (arguments : List String) : Except Stop Invocation := do
  match invocation? (← read arguments) with
  | some invocation => .ok invocation
  | none => .error .misuse

end NodeAdmin.CommandLine
