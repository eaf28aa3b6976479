import Governance.Proposal.Nft
import Governance.Proposal.Role
import Governance.Revenue

/-!
# Kinds of proposals

The nine things that can be proposed. In JSON a kind is an object with one member, whose name is the
tag of the kind and whose value holds the rest, the payload (`ProposalKind.toDocument`). As a free value
the payload is what proposals are compared by (`ProposalKind.payload`).
-/

namespace Governance

open Json

/-- The tag of a kind of proposal. -/
inductive KindTag
  | addMember
  | addOrUpdateRole
  | prepareNft
  | updatePreparedNft
  | mintRoot
  | createRevenueTable
  | alterRevenueTable
  | payoutRevenue
  | resendFailedTransaction
  deriving DecidableEq, Repr, Inhabited

namespace KindTag

/-- The name of a tag in JSON and in messages. -/
def name : KindTag → String
  | addMember => "AddMemberToRole"
  | addOrUpdateRole => "ChangePolicyAddOrUpdateRole"
  | prepareNft => "PrepairNft"
  | updatePreparedNft => "UpdatePrepairedNft"
  | mintRoot => "MintRoot"
  | createRevenueTable => "CreateRevenueTable"
  | alterRevenueTable => "AlterRevenueTable"
  | payoutRevenue => "PayoutRevenue"
  | resendFailedTransaction => "ResendFailedTransaction"

/-- All tags. -/
def all : List KindTag :=
  [addMember, addOrUpdateRole, prepareNft, updatePreparedNft, mintRoot, createRevenueTable,
    alterRevenueTable, payoutRevenue, resendFailedTransaction]

/-- The tags by their names. -/
def named : List (String × KindTag) :=
  all.map fun tag => (tag.name, tag)

/-- Each tag is found under its name. -/
theorem lookup_name (tag : KindTag) : named.lookup tag.name = some tag := by
  cases tag <;> rfl

/-- The document of a tag. -/
def toDocument (tag : KindTag) : Document :=
  .text tag.name

/-- Reads a tag. -/
def ofDocument? : Decoder KindTag :=
  Decoder.oneOf named

end KindTag

/-- What can be proposed. -/
inductive ProposalKind
  /-- Let an account into a role. -/
  | addMember (memberId role : String)
  /-- Add a role to the policy, or replace the role of that name. -/
  | addOrUpdateRole (role : RolePermission)
  /-- Begin to prepare an NFT. -/
  | prepareNft (nft : NftData)
  /-- Replace what is known of an NFT in preparation. -/
  | updatePreparedNft (id : UInt64) (nft : NftData)
  /-- Mint a complete NFT in preparation. -/
  | mintRoot (id : UInt64)
  /-- Give a minted NFT its revenue table, with a sale price in yoctoNEAR. -/
  | createRevenueTable (rootId contract : String) (table : RevenueShares) (price : String)
  /-- Replace the revenue table of a registered NFT. -/
  | alterRevenueTable (treeIndex : UInt64) (table : RevenueShares) (price : String)
  /-- Pay out the income of registered NFTs. -/
  | payoutRevenue (treeIndexes : List UInt64)
  /-- Deliver a failed payout to another account. -/
  | resendFailedTransaction (failedId : UInt64) (newAddress : String)
  deriving DecidableEq

namespace ProposalKind

/-- The tag of a kind. -/
def tag : ProposalKind → KindTag
  | addMember _ _ => .addMember
  | addOrUpdateRole _ => .addOrUpdateRole
  | prepareNft _ => .prepareNft
  | updatePreparedNft _ _ => .updatePreparedNft
  | mintRoot _ => .mintRoot
  | createRevenueTable _ _ _ _ => .createRevenueTable
  | alterRevenueTable _ _ _ => .alterRevenueTable
  | payoutRevenue _ => .payoutRevenue
  | resendFailedTransaction _ _ => .resendFailedTransaction

/-- What stands under the tag, in JSON. -/
def payloadDocument : ProposalKind → Document
  | addMember memberId role => .record [("member_id", .text memberId), ("role", .text role)]
  | addOrUpdateRole role => .record [("role", role.toDocument)]
  | prepareNft nft => .record [("nft_data", nft.toDocument)]
  | updatePreparedNft id nft => .record [("id", .nat id.toNat), ("new_nft_data", nft.toDocument)]
  | mintRoot id => .record [("id", .nat id.toNat)]
  | createRevenueTable rootId contract table price =>
    .record [("root_id", .text rootId), ("contract", .text contract),
      ("unsafe_table", table.toDocument), ("price", .text price)]
  | alterRevenueTable treeIndex table price =>
    .record [("tree_index", .nat treeIndex.toNat), ("unsafe_table", table.toDocument),
      ("price", .text price)]
  | payoutRevenue treeIndexes =>
    .record [("tree_index_list", .array (treeIndexes.map fun i => .nat i.toNat))]
  | resendFailedTransaction failedId newAddress =>
    .record [("failed_id", .nat failedId.toNat), ("new_address", .text newAddress)]

/-- What stands under the tag, as a free value. -/
def payload : ProposalKind → Value
  | addMember memberId role => .record [("member_id", .string memberId), ("role", .string role)]
  | addOrUpdateRole role => .record [("role", role.toValue)]
  | prepareNft nft => .record [("nft_data", nft.toValue)]
  | updatePreparedNft id nft => .record [("id", .nat id.toNat), ("new_nft_data", nft.toValue)]
  | mintRoot id => .record [("id", .nat id.toNat)]
  | createRevenueTable rootId contract table price =>
    .record [("root_id", .string rootId), ("contract", .string contract),
      ("unsafe_table", table.toValue), ("price", .string price)]
  | alterRevenueTable treeIndex table price =>
    .record [("tree_index", .nat treeIndex.toNat), ("unsafe_table", table.toValue),
      ("price", .string price)]
  | payoutRevenue treeIndexes =>
    .record [("tree_index_list", .array (treeIndexes.map fun i => .nat i.toNat))]
  | resendFailedTransaction failedId newAddress =>
    .record [("failed_id", .nat failedId.toNat), ("new_address", .string newAddress)]

/-- The document of a kind. -/
def toDocument (kind : ProposalKind) : Document :=
  .record [(kind.tag.name, kind.payloadDocument)]

/-- The kind as a free value. -/
def toValue (kind : ProposalKind) : Value :=
  .record [(kind.tag.name, kind.payload)]

/-- Reads the payload of a kind with a known tag. -/
def ofPayload? : KindTag → Decoder ProposalKind
  | .addMember => fun depth d => do
    let r ← Decoder.record ["member_id", "role"] depth d
    return addMember (← r.required "member_id" Decoder.string) (← r.required "role" Decoder.string)
  | .addOrUpdateRole => fun depth d => do
    let r ← Decoder.record ["role"] depth d
    return addOrUpdateRole (← r.required "role" RolePermission.ofDocument?)
  | .prepareNft => fun depth d => do
    let r ← Decoder.record ["nft_data"] depth d
    return prepareNft (← r.required "nft_data" NftData.ofDocument?)
  | .updatePreparedNft => fun depth d => do
    let r ← Decoder.record ["id", "new_nft_data"] depth d
    return updatePreparedNft (← r.required "id" Decoder.uint64)
      (← r.required "new_nft_data" NftData.ofDocument?)
  | .mintRoot => fun depth d => do
    let r ← Decoder.record ["id"] depth d
    return mintRoot (← r.required "id" Decoder.uint64)
  | .createRevenueTable => fun depth d => do
    let r ← Decoder.record ["root_id", "contract", "unsafe_table", "price"] depth d
    return createRevenueTable (← r.required "root_id" Decoder.string)
      (← r.required "contract" Decoder.string) (← r.required "unsafe_table" RevenueShares.ofDocument?)
      (← r.required "price" Decoder.string)
  | .alterRevenueTable => fun depth d => do
    let r ← Decoder.record ["tree_index", "unsafe_table", "price"] depth d
    return alterRevenueTable (← r.required "tree_index" Decoder.uint64)
      (← r.required "unsafe_table" RevenueShares.ofDocument?) (← r.required "price" Decoder.string)
  | .payoutRevenue => fun depth d => do
    let r ← Decoder.record ["tree_index_list"] depth d
    return payoutRevenue (← r.required "tree_index_list" (Decoder.list Decoder.uint64))
  | .resendFailedTransaction => fun depth d => do
    let r ← Decoder.record ["failed_id", "new_address"] depth d
    return resendFailedTransaction (← r.required "failed_id" Decoder.uint64)
      (← r.required "new_address" Decoder.string)

/-- Reads a kind. -/
def ofDocument? : Decoder ProposalKind := fun depth d => do
  match ← Decoder.alternative depth d with
  | (name, some (depth, payload)) => ofPayload? (← KindTag.named.lookup name) depth payload
  | _ => none

end ProposalKind

end Governance
