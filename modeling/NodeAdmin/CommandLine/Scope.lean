import NodeAdmin.Cost.PriceUnit
import NodeAdmin.Double.Reading
import NodeAdmin.Word.Bounds

/-!
# The commands and their options

Every command is a scope with its own options. Some options are known in every
scope.
-/

namespace NodeAdmin.CommandLine

/-- The places in which arguments are read: the tool itself, its commands, and
the commands of those. -/
inductive Scope where
  | tool
  | cost
  | models
  | update
  | providers
  | logs
  | balance
  | config
  | init
  | check
  | login
  | logout
  | setUrl
  deriving DecidableEq, Repr

/-- The values that options take; a flag takes none. -/
inductive ValueKind where
  | flag
  | text
  | count
  | limit
  | number
  | unit
  deriving DecidableEq, Repr

/-- Options, by what they are for. -/
inductive Choice where
  | format | json | pretty | noColour | verbose
  | help | version
  | inputTokens | outputTokens | inputPrice | outputPrice | minCost | unit
  | contextLength | offline
  | provider | all
  | name | enable | disable | recommendedMin
  | limit | level
  | url | token
  deriving DecidableEq, Repr

/-- The long name, the short name and the value of an option. -/
structure OptionForm where
  choice : Choice
  long : String
  short : Option Char
  kind : ValueKind
  deriving DecidableEq, Repr

/-- The options that every scope knows. -/
def commonOptions : List OptionForm :=
  [ ⟨.format, "format", some 'f', .text⟩,
    ⟨.json, "json", some 'j', .flag⟩,
    ⟨.pretty, "pretty", none, .flag⟩,
    ⟨.noColour, "no-color", none, .flag⟩,
    ⟨.verbose, "verbose", some 'v', .flag⟩,
    ⟨.help, "help", some 'h', .flag⟩ ]

/-- The options for prices. -/
def priceOptions : List OptionForm :=
  [ ⟨.inputPrice, "input-price", none, .number⟩,
    ⟨.outputPrice, "output-price", none, .number⟩,
    ⟨.minCost, "min-cost", none, .number⟩,
    ⟨.unit, "unit", none, .unit⟩ ]

namespace Scope

/-- The options of a scope besides the common ones. -/
def ownOptions : Scope → List OptionForm
  | tool => [⟨.version, "version", some 'V', .flag⟩]
  | cost =>
      [ ⟨.inputTokens, "input", some 'i', .count⟩,
        ⟨.outputTokens, "output", some 'o', .count⟩,
        ⟨.contextLength, "context-length", none, .count⟩,
        ⟨.offline, "offline", none, .flag⟩ ] ++ priceOptions
  | models =>
      [ ⟨.provider, "provider", some 'p', .text⟩,
        ⟨.all, "all", some 'a', .flag⟩ ]
  | update =>
      [ ⟨.name, "name", none, .text⟩,
        ⟨.enable, "enable", none, .flag⟩,
        ⟨.disable, "disable", none, .flag⟩,
        ⟨.recommendedMin, "recommended-min", none, .flag⟩ ] ++ priceOptions
  | logs =>
      [ ⟨.limit, "limit", some 'n', .limit⟩,
        ⟨.level, "level", some 'l', .text⟩ ]
  | init => [⟨.url, "url", none, .text⟩]
  | login => [⟨.token, "token", none, .text⟩]
  | providers | balance | config | check | logout | setUrl => []

def options (scope : Scope) : List OptionForm := scope.ownOptions ++ commonOptions

/-- The commands inside a scope. -/
def commands : Scope → List (String × Scope)
  | tool =>
      [ ("cost", cost), ("models", models), ("providers", providers), ("logs", logs),
        ("balance", balance), ("config", config) ]
  | models => [("update", update)]
  | config =>
      [ ("init", init), ("check", check), ("login", login), ("logout", logout),
        ("set-url", setUrl) ]
  | cost | update | providers | logs | balance | init | check | login | logout | setUrl => []

/-- The command of a name. -/
def command? (scope : Scope) (name : String) : Option Scope :=
  (scope.commands.find? (·.1 == name)).map (·.2)

/-- Whether a scope takes one argument that is no option, which must be there. -/
def takesOperand : Scope → Bool
  | cost | update | setUrl => true
  | _ => false

/-- Whether a scope is nothing without one of its commands. -/
def needsCommand : Scope → Bool
  | tool | config => true
  | _ => false

/-- Options that exclude each other in a scope. -/
def conflicts : Scope → List (Choice × Choice)
  | update => [(.enable, .disable), (.recommendedMin, .minCost)]
  | _ => []

end Scope

/-! ## Values -/

inductive Value where
  | flag
  | text (value : String)
  | count (value : UInt64)
  | limit (value : Nat)
  | number (value : Double)
  | unit (value : PriceUnit)
  deriving DecidableEq, Repr

/-- The whole number of a text with an optional sign. -/
def readInteger? (text : List Char) : Option Int :=
  let signed := takeSign text
  if signed.2.isEmpty ∨ ¬ signed.2.all Char.isDigit then none
  else
    let size : Int := digitsValue signed.2
    some (if signed.1 then -size else size)

/-- A count of 64 bits; a minus sign is no part of a count. -/
def readCount? (text : String) : Option UInt64 :=
  match text.toList with
  | '-' :: _ => none
  | characters =>
      match readInteger? characters with
      | some value => if Word.isWord64 value then some (UInt64.ofNat value.toNat) else none
      | none => none

/-- A number of entries of 32 bits. -/
def readLimit? (text : String) : Option Nat :=
  match readInteger? text.toList with
  | some value => if Word.isWord32 value then some value.toNat else none
  | none => none

/-- The value of a text, if an option of that kind can have it. -/
def ValueKind.read? (kind : ValueKind) (text : String) : Option Value :=
  match kind with
  | flag => none
  | .text => some (.text text)
  | count => (readCount? text).map .count
  | limit => (readLimit? text).map .limit
  | number => (Double.read? text).map .number
  | unit => (PriceUnit.ofName text).toOption.map .unit

end NodeAdmin.CommandLine
