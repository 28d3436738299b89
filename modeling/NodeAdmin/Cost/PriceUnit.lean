import NodeAdmin.Double.Arithmetic
import NodeAdmin.Text.Case

/-!
# Price units

Operators type prices per token or per million tokens; models keep them per
million tokens.
-/

namespace NodeAdmin

inductive PriceUnit where
  | perToken
  | perMillion
  deriving DecidableEq, Repr

def tokensPerMillion : Double := Double.ofNat 1000000

def perTokenToPerMillion (price : Double) : Double := price * tokensPerMillion

def perMillionToPerToken (price : Double) : Double := price / tokensPerMillion

namespace PriceUnit

/-- A price in this unit as a price per million tokens. -/
def toPerMillion : PriceUnit → Double → Double
  | perToken, price => perTokenToPerMillion price
  | perMillion, price => price

/-- The unit of a name in any case; the error tells the lower-cased name. -/
def ofName (name : String) : Except String PriceUnit :=
  let lowered := Text.toLower name
  if ["token", "per-token", "per_token"].contains lowered then .ok perToken
  else if ["million", "per-million", "per_million", "mtok"].contains lowered then
    .ok perMillion
  else .error s!"invalid price unit '{lowered}' (must be 'token' or 'million')"

def text : PriceUnit → String
  | perToken => "per-token"
  | perMillion => "per-million"

end PriceUnit

end NodeAdmin
