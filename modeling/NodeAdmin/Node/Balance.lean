import NodeAdmin.Json.Decode

/-!
# Balances

What a node holds at each mint, in the unit of the mint, and in total.
-/

namespace NodeAdmin

open Json

structure MintBalance where
  mintUrl : String
  unit : String
  wallet : Int64
  users : Int64
  owner : Int64
  /-- Set when the mint could not be reached. -/
  error : Option String
  deriving DecidableEq, Repr

structure BalanceSummary where
  wallet : Int64
  users : Int64
  owner : Int64
  unit : String
  mints : List MintBalance
  deriving DecidableEq, Repr

/-- The unit of balances that do not name one. -/
def defaultBalanceUnit : String := "sat"

def amountJson (amount : Int64) : Json := .integer amount.toInt

namespace MintBalance

/-- The fields of a mint's balance that were read so far. -/
structure Draft where
  mintUrl : Option String
  unit : Option String
  wallet : Option Int64
  users : Option Int64
  owner : Option Int64
  error : Option (Option String)

def shape : RecordShape Draft MintBalance where
  fields :=
    [ .slot ["mint_url"] (·.mintUrl)
        (fun value draft => { draft with mintUrl := some value }) Decode.string,
      .slot ["unit"] (·.unit)
        (fun value draft => { draft with unit := some value }) Decode.string,
      .slot ["wallet_balance"] (·.wallet)
        (fun value draft => { draft with wallet := some value }) Decode.int64,
      .slot ["user_balance"] (·.users)
        (fun value draft => { draft with users := some value }) Decode.int64,
      .slot ["owner_balance"] (·.owner)
        (fun value draft => { draft with owner := some value }) Decode.int64,
      .slot ["error"] (·.error)
        (fun value draft => { draft with error := some value })
        (Decode.optional Decode.string) ]
  empty := ⟨none, none, none, none, none, none⟩
  finish draft := draft.mintUrl.map fun mintUrl =>
    { mintUrl := mintUrl
      unit := draft.unit.getD defaultBalanceUnit
      wallet := draft.wallet.getD 0
      users := draft.users.getD 0
      owner := draft.owner.getD 0
      error := draft.error.join }

def decode : Decoder MintBalance := shape.decode

def toJson (balance : MintBalance) : Json :=
  .object
    ([("mint_url", .string balance.mintUrl), ("unit", .string balance.unit),
      ("wallet_balance", amountJson balance.wallet),
      ("user_balance", amountJson balance.users),
      ("owner_balance", amountJson balance.owner)] ++
      optional "error" (balance.error.map .string))

end MintBalance

namespace BalanceSummary

/-- The fields of a summary that were read so far. -/
structure Draft where
  wallet : Option Int64
  users : Option Int64
  owner : Option Int64
  unit : Option String
  mints : Option (List MintBalance)

def shape : RecordShape Draft BalanceSummary where
  fields :=
    [ .slot ["total_wallet"] (·.wallet)
        (fun value draft => { draft with wallet := some value }) Decode.int64,
      .slot ["user_balances"] (·.users)
        (fun value draft => { draft with users := some value }) Decode.int64,
      .slot ["owner_balance"] (·.owner)
        (fun value draft => { draft with owner := some value }) Decode.int64,
      .slot ["unit"] (·.unit)
        (fun value draft => { draft with unit := some value }) Decode.string,
      .slot ["mints"] (·.mints)
        (fun value draft => { draft with mints := some value })
        (Decode.list MintBalance.decode) ]
  empty := ⟨none, none, none, none, none⟩
  finish draft := some
    { wallet := draft.wallet.getD 0
      users := draft.users.getD 0
      owner := draft.owner.getD 0
      unit := draft.unit.getD defaultBalanceUnit
      mints := draft.mints.getD [] }

def decode : Decoder BalanceSummary := shape.decode

def toJson (summary : BalanceSummary) : Json :=
  .object
    [("total_wallet", amountJson summary.wallet),
      ("user_balances", amountJson summary.users),
      ("owner_balance", amountJson summary.owner), ("unit", .string summary.unit),
      ("mints", .array (summary.mints.map MintBalance.toJson))]

end BalanceSummary

end NodeAdmin
