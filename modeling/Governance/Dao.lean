import Governance.Account
import Governance.Config
import Governance.Contract
import Governance.Rpc.Endpoint

/-!
# The deployed contract

The governance contract as it is deployed, reached through an endpoint. Views are asked directly; what changes
the contract goes to a signer first, once, and what the signer makes of it is broadcast. Besides what
proposals need, the deployed contract tells about roles, NFTs in preparation, income and prices, and sells
NFTs for exactly the price that is listed.
-/

namespace Governance

open Json

/-- Whoever holds the keys. -/
structure Signer (m : Type → Type) where
  /-- The account that calls are signed for. -/
  id : String
  /-- Makes a signed transaction of a call, in base 64. -/
  sign : FunctionCall → ExceptT Error m String

/-- The signer without keys: it refuses everything. -/
def Signer.readOnly (m : Type → Type) [Monad m] : Signer m where
  id := ""
  sign call := throw (.invalidInput (.needsSigner call.methodName))

/-- The deployed contract. -/
structure Dao (m : Type → Type) where
  endpoint : Rpc.Endpoint m
  signer : Signer m
  config : Config

namespace Dao

variable {m : Type → Type} [Monad m]

/-- Asks a view of the contract. -/
def view (dao : Dao m) (read : Decoder α) (method : String) (args : List (String × Value)) :
    ExceptT Error m α :=
  dao.endpoint.view read dao.config.contractId method (.record args)

/-- Has a call of the contract signed, and broadcasts it. -/
def call (dao : Dao m) (method : String) (args : List (String × Value)) (gas : UInt64)
    (deposit : Amount) : ExceptT Error m TransactionOutcome := do
  let signed ← dao.signer.sign ⟨dao.config.contractId, method, .record args, gas, deposit⟩
  dao.endpoint.broadcast method signed

/-! ## Roles -/

/-- The policy. -/
def policy (dao : Dao m) : ExceptT Error m Policy :=
  dao.view Policy.ofDocument? "get_policy" []

/-- The master groups of all minting contracts. -/
def masterGroups (dao : Dao m) : ExceptT Error m (List RolePermission) := do
  return (← dao.policy).masterGroups

/-! ## NFTs and income -/

/-- A stretch of a list. -/
def stretch (fromIndex limit : UInt64) : List (String × Value) :=
  [("from_index", .nat fromIndex.toNat), ("limit", .nat limit.toNat)]

/-- The NFTs in preparation. -/
def inProgressNfts (dao : Dao m) : ExceptT Error m (List InProgressNft) :=
  dao.view (Decoder.list InProgressNft.ofDocument?) "get_in_progress_nfts" []

/-- Income tables with their indexes. -/
def incomeTables (dao : Dao m) (fromIndex limit : UInt64) :
    ExceptT Error m (List (UInt64 × IncomeTable)) :=
  dao.view (Decoder.list (Decoder.pair Decoder.uint64 IncomeTable.ofDocument?)) "get_income_tables"
    (stretch fromIndex limit)

/-- One income table. -/
def incomeTable (dao : Dao m) (treeIndex : UInt64) : ExceptT Error m IncomeTable :=
  dao.view IncomeTable.ofDocument? "get_single_income_table" [("id", .nat treeIndex.toNat)]

/-- Payouts that were not delivered, with their IDs. -/
def failedTransactions (dao : Dao m) (fromIndex limit : UInt64) :
    ExceptT Error m (List (UInt64 × FailedTransaction)) :=
  dao.view (Decoder.list (Decoder.pair Decoder.uint64 FailedTransaction.ofDocument?))
    "get_failed_transactions" (stretch fromIndex limit)

/-- The catalogue of an artist: what is known of each NFT. -/
def catalogue (dao : Dao m) (artist : String) :
    ExceptT Error m (List (UInt64 × Option CatalogueEntry)) :=
  dao.view (Decoder.list (Decoder.pair Decoder.uint64 (Decoder.nullable CatalogueEntry.ofDocument?)))
    "get_catalogue" [("artist", .string artist)]

/-! ## Sales -/

/-- What names an NFT on a minting contract. -/
def nftArgs (contract rootId : String) : List (String × Value) :=
  [("minting_contract", .string contract), ("root_id", .string rootId)]

/-- The price that a text tells. -/
def readPrice (text : String) : Except Error Amount :=
  match Amount.ofDigits? text with
  | some price => .ok price
  | none => .error (.invalidResponse (.price text))

/-- The sale price of an NFT, if it has one. -/
def price (dao : Dao m) (contract rootId : String) : ExceptT Error m (Option Amount) := do
  match ← dao.view (Decoder.nullable Decoder.string) "get_price" (nftArgs contract rootId) with
  | none => return none
  | some text => some <$> liftExcept (readPrice text)

/-- Refuses a purchase that makes no sense. -/
def checkPurchase (contract rootId : String) (price : Amount) : Except InputFault Unit := do
  checkAccount "minting contract" contract
  if !isFilled rootId then throw .blankRootId
  if price.yocto = 0 then throw .freePrice

/-- Buys an NFT for a price. -/
def buyNft (dao : Dao m) (contract rootId : String) (price : Amount) :
    ExceptT Error m TransactionOutcome := do
  liftExcept ((checkPurchase contract rootId price).mapError Error.invalidInput)
  dao.call "buy_nft" (nftArgs contract rootId) dao.config.buyGas price

/-- Buys an NFT for the price that is listed. -/
def buyListedNft (dao : Dao m) (contract rootId : String) : ExceptT Error m TransactionOutcome := do
  match ← dao.price contract rootId with
  | none => throw (.invalidInput (.unlisted contract rootId))
  | some price => dao.buyNft contract rootId price

/-! ## Proposals -/

/-- The part of the contract that proposals need. -/
def governance (dao : Dao m) : GovernanceContract m where
  submitProposal input := do
    let outcome ← dao.call "add_proposal" [("proposal", input.toValue)] dao.config.proposalGas default
    return outcome.returnValue.asUInt64?
  lastProposalId := dao.view Decoder.uint64 "get_last_proposal_id" []
  listProposals fromIndex limit :=
    dao.view (Decoder.list Proposal.ofDocument?) "get_proposals" (stretch fromIndex limit)
  vote id action := do
    let args := [("id", Value.nat id.toNat), ("action", Value.string action.name)]
    let outcome ← dao.call "act_proposal" args dao.config.voteGas default
    return ⟨id, outcome.transactionHash, outcome.returnValue⟩

end Dao

end Governance
