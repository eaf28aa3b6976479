import Governance.Amount
import Governance.Json.Decoder

/-!
# Revenue

A revenue table says which share of the income of an NFT goes to whom, in basis points. The contract
keeps, for every registered NFT, what came in and what has not been paid out yet, and it remembers the
payouts that did not arrive.
-/

namespace Governance

open Json

/-- Shares in basis points by beneficiary. -/
abbrev RevenueShares := StringMap UInt64

namespace RevenueShares

/-- The document of a table. -/
def toDocument (shares : RevenueShares) : Document :=
  .record (shares.entries.map fun (account, share) => (account, .nat share.toNat))

/-- The table as a free value. -/
def toValue (shares : RevenueShares) : Value :=
  .object (shares.entries.map fun (account, share) => (account, .nat share.toNat))

/-- Reads a table. -/
def ofDocument? : Decoder RevenueShares :=
  Decoder.map Decoder.uint64

end RevenueShares

namespace Amount

/-- The document of an amount: its number of yoctoNEAR. -/
def toDocument (a : Amount) : Document :=
  .nat a.yocto

/-- Reads an amount. -/
def ofDocument? : Decoder Amount :=
  Decoder.filterMap ofYocto? (Decoder.natBelow bound)

end Amount

/-- The income of one registered NFT. -/
structure IncomeTable where
  /-- All that ever came in. -/
  totalIncome : Amount
  /-- What has not been paid out yet. -/
  currentBalance : Amount
  /-- The ID of the root token. -/
  rootId : String
  /-- The minting contract. -/
  contract : String
  owner : String
  /-- The sale price in yoctoNEAR. -/
  price : Option String
  deriving DecidableEq

namespace IncomeTable

/-- The names of the fields, in order. -/
def fields : List String :=
  ["total_income", "current_balance", "root_id", "contract", "owner", "price"]

/-- The document of an income table. -/
def toDocument (table : IncomeTable) : Document :=
  .record [
    ("total_income", table.totalIncome.toDocument),
    ("current_balance", table.currentBalance.toDocument),
    ("root_id", .text table.rootId),
    ("contract", .text table.contract),
    ("owner", .text table.owner),
    ("price", .nullable .text table.price)]

/-- Reads an income table. -/
def ofDocument? : Decoder IncomeTable := fun depth d => do
  let r ← Decoder.record fields depth d
  return {
    totalIncome := ← r.required "total_income" Amount.ofDocument?
    currentBalance := ← r.required "current_balance" Amount.ofDocument?
    rootId := ← r.required "root_id" Decoder.string
    contract := ← r.required "contract" Decoder.string
    owner := ← r.required "owner" Decoder.string
    price := ← r.withDefault "price" none (Decoder.nullable Decoder.string) }

end IncomeTable

/-- A payout that the contract could not deliver. -/
structure FailedTransaction where
  /-- Whom it was meant for. -/
  beneficiary : String
  amount : Amount
  deriving DecidableEq

namespace FailedTransaction

/-- The document of a failed payout. -/
def toDocument (failed : FailedTransaction) : Document :=
  .record [("beneficiary", .text failed.beneficiary), ("amount", failed.amount.toDocument)]

/-- Reads a failed payout. -/
def ofDocument? : Decoder FailedTransaction := fun depth d => do
  let r ← Decoder.record ["beneficiary", "amount"] depth d
  return {
    beneficiary := ← r.required "beneficiary" Decoder.string
    amount := ← r.required "amount" Amount.ofDocument? }

end FailedTransaction

/-- What the catalogue of an artist says about one NFT. -/
structure CatalogueEntry where
  revenueTable : RevenueShares
  /-- The sale price in yoctoNEAR. -/
  price : String
  deriving DecidableEq

namespace CatalogueEntry

/-- The document of a catalogue entry. -/
def toDocument (entry : CatalogueEntry) : Document :=
  .record [("revenue_table", entry.revenueTable.toDocument), ("price", .text entry.price)]

/-- Reads a catalogue entry. -/
def ofDocument? : Decoder CatalogueEntry := fun depth d => do
  let r ← Decoder.record ["revenue_table", "price"] depth d
  return {
    revenueTable := ← r.required "revenue_table" RevenueShares.ofDocument?
    price := ← r.required "price" Decoder.string }

end CatalogueEntry

end Governance
