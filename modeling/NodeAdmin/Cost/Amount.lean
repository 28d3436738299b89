import NodeAdmin.Cost.Charge
import NodeAdmin.Text.Pieces

/-!
# Amounts as text

Costs get more decimal places the smaller they are, token counts a unit of
thousands or millions, and balances commas between their thousands.
-/

namespace NodeAdmin.Amount

/-- One unit of the given decimal place. -/
def decimalPlace (place : Nat) : Double := Double.ofDecimal false 1 (-(place : Int))

/-- How many places a cost is shown with. The first threshold is inclusive. -/
def costPlaces (cost : Double) : Nat :=
  if cost.le (decimalPlace 6) then 8
  else if cost.lt (decimalPlace 3) then 6
  else if cost.lt (decimalPlace 2) then 4
  else 3

/-- A cost; zero is free. -/
def cost (cost : Double) : String :=
  if cost.isZero then "Free" else s!"${cost.fixedText (costPlaces cost)}"

/-- A price per million tokens; zero is free. -/
def pricePerMillion (price : Double) : String :=
  if price.isZero then "Free" else s!"${price.fixedText 2}/M"

/-- A number of tokens. -/
def tokens (count : UInt64) : String :=
  if 1000000 ≤ count then
    (Double.ofUInt64 count / Double.ofNat 1000000).fixedText 1 ++ "M"
  else if 1000 ≤ count then
    (Double.ofUInt64 count / Double.ofNat 1000).fixedText 1 ++ "K"
  else String.ofList (Nat.toDigits 10 count.toNat)

/-- Digits with a comma wherever a multiple of three of them follows. -/
def groupThousands : List Char → List Char
  | [] => []
  | digit :: rest =>
      if rest.length % 3 = 0 ∧ rest ≠ [] then digit :: ',' :: groupThousands rest
      else digit :: groupThousands rest

/-- A balance in its unit. -/
def balance (amount : Int64) (unit : String) : String :=
  let sign := if amount < 0 then "-" else ""
  let grouped := groupThousands (Nat.toDigits 10 amount.toInt.natAbs)
  sign ++ String.ofList grouped ++ " " ++ unit

/-- The parts of a charge that are not zero. -/
def breakdown (charge : Charge) : String :=
  Text.join " | "
    ((if charge.inputCost.isPositive then [s!"Input: {cost charge.inputCost}"] else []) ++
      (if charge.outputCost.isPositive then [s!"Output: {cost charge.outputCost}"] else []) ++
      (if charge.minimumApplied then [s!"Minimum: {cost charge.minimum}"] else []))

end NodeAdmin.Amount
