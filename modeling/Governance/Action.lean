import Governance.Account
import Governance.Proposal.Basic

/-!
# Actions

What an artist or a council member can do, as proposals ready to be sent. Every action is checked first,
so that a malformed account, a gap in an NFT or a table that does not add up is refused here and not
by the contract.
-/

namespace Governance

/-- How much a group may do on a minting contract. -/
inductive GroupTier
  /-- May mint. -/
  | master
  /-- May help. -/
  | collab
  deriving DecidableEq, Repr

/-- What the name of a group begins with. -/
def GroupTier.label : GroupTier → String
  | master => "master"
  | collab => "collab"

/-- The name of a group of a minting contract. -/
def groupName (tier : GroupTier) (contract : String) : Except InputFault String := do
  checkAccount "contract" contract
  return s!"{tier.label}_{contract}"

namespace RevenueShares

/-- What the shares of a table add up to, in basis points. -/
def fullShare : UInt64 := 10000

/-- How many accounts may share at most. -/
def maxEntries : Nat := 15

/-- The sum of two shares, if it fits 64 bits. -/
def add? (a b : UInt64) : Option UInt64 :=
  if a.toNat + b.toNat < UInt64.size then some (a + b) else none

/-- The sum of all shares, if it and the sums on the way to it fit 64 bits. -/
def total? (shares : RevenueShares) : Option UInt64 :=
  shares.values.foldlM add? 0

/-- Refuses a table that is too long, names no account or does not add up. -/
def check (shares : RevenueShares) : Except InputFault Unit := do
  if maxEntries < shares.size then throw (.tableSize shares.size)
  shares.keys.forM fun account => checkAccount "revenue table beneficiary" account
  if shares.total? ≠ some fullShare then throw .tableTotal

end RevenueShares

namespace ProposalInput

/-- What the members of a new master group may do. -/
def masterGroupPermissions : List String :=
  ["mint_root:*", "prepair_nft:*", "update_prepaired_nft:*", "create_revenue_table:*",
    "alter_revenue_table:*", "payout_revenue:*"]

/-- Let an account into a group. -/
def registerUser (memberId role : String) : Except InputFault ProposalInput := do
  checkAccount "member" memberId
  requireFilled "role" (some role)
  return ⟨"Add Artist to master group (or collab to collab group)", .addMember memberId role⟩

/-- Create a master group without members. -/
def createGroup (group : String) : Except InputFault ProposalInput := do
  requireFilled "group name" (some group)
  return ⟨s!"Create Master Group - {group}",
    .addOrUpdateRole ⟨group, .group [], masterGroupPermissions, .empty⟩⟩

/-- Begin to prepare an NFT. It needs a title, by which the proposal is found again. -/
def prepareNft (nft : NftData) : Except InputFault ProposalInput := do
  checkAccount "contract" nft.contract
  requireFilled "title" nft.title
  let title := nft.title.getD ""
  return ⟨s!"Prepair NFT: {title}", .prepareNft nft⟩

/-- Replace what is known of an NFT in preparation. -/
def updateNft (id : UInt64) (nft : NftData) : Except InputFault ProposalInput := do
  checkAccount "contract" nft.contract
  let title := nft.title.getD s!"#{id}"
  return ⟨s!"Update NFT: {title}", .updatePreparedNft id nft⟩

/-- Mint an NFT in preparation. -/
def mintRoot (id : UInt64) : ProposalInput :=
  ⟨s!"MintRoot. ID: {id}", .mintRoot id⟩

/-- Mint an NFT in preparation that nothing is missing of. -/
def mintRootOf (nft : InProgressNft) : Except InputFault ProposalInput :=
  if nft.isReadyForMint then .ok (mintRoot nft.id) else .error (.incompleteNft nft.id)

/-- Give a minted NFT its revenue table, with a sale price in NEAR. -/
def createRevenueTable (rootId contract : String) (table : RevenueShares) (price : String) :
    Except InputFault ProposalInput := do
  requireFilled "root ID" (some rootId)
  checkAccount "contract" contract
  table.check
  let price ← Amount.ofNear? price
  return ⟨s!"Create Revenue Table for uniqID: {contract}-{rootId}",
    .createRevenueTable rootId contract table price.toDigits⟩

/-- Replace the revenue table of a registered NFT, with a sale price in NEAR. -/
def alterRevenueTable (treeIndex : UInt64) (table : RevenueShares) (price : String) :
    Except InputFault ProposalInput := do
  table.check
  let price ← Amount.ofNear? price
  return ⟨s!"Alter Revenue Table for treeIndex: {treeIndex}",
    .alterRevenueTable treeIndex table price.toDigits⟩

/-- Pay out the income of registered NFTs. -/
def payout (treeIndexes : List UInt64) : Except InputFault ProposalInput :=
  if treeIndexes = [] then .error .noTreeIndex
  else
    let listed := ",".intercalate (treeIndexes.map toString)
    .ok ⟨s!"Payout the songs with the following TreeIndexes: {listed}", .payoutRevenue treeIndexes⟩

/-- Deliver a failed payout to another account. -/
def resendFailedTransaction (failedId : UInt64) (newAddress : String) :
    Except InputFault ProposalInput := do
  checkAccount "new address" newAddress
  return ⟨s!"Resend transaction with different address, ID: {failedId}",
    .resendFailedTransaction failedId newAddress⟩

end ProposalInput

end Governance
