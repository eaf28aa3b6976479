import Governance.Json.Value
import Governance.Proposal.Kind
import Governance.Text.Segments

/-!
# Distinguishing fields

What tells a proposal from others of its kind: values that its payload must hold, each under a path of
member names with points between them. All fields have to hold (`Fields.holdIn`); fields given twice count
as given last. A path without points is looked up as the name of a member (`Fields.lookup_name`), and a path in
two parts is looked up part by part (`Fields.lookup_append`). For each kind a choice of fields is made that
identifies what was proposed (`ProposalKind.fields`).
-/

namespace Governance

open Json

/-- Values by the paths under which a payload must hold them. -/
abbrev Fields := StringMap Value

namespace Fields

/-- What a payload holds under a path. Every segment of the path is the name of a member. -/
def lookup (payload : Value) (path : String) : Option Value :=
  (Text.segments '.' path.toList).foldlM (fun v name => v.get? (String.ofList name)) payload

/-- A path without points is the name of a member. -/
theorem lookup_name (payload : Value) {name : String} (plain : '.' ∉ name.toList) :
    lookup payload name = payload.get? name := by
  rw [lookup, Text.segments_of_not_mem plain, List.foldlM_cons, String.ofList_toList]
  cases payload.get? name <;> rfl

/-- A path leads on from what is found under its first part. -/
theorem lookup_append (payload : Value) (path rest : String) :
    lookup payload (path ++ "." ++ rest) = (lookup payload path).bind fun v => lookup v rest := by
  have parts : (path ++ "." ++ rest).toList = path.toList ++ '.' :: rest.toList := by
    rw [String.toList_append, String.toList_append, List.append_assoc]
    rfl
  rw [lookup, parts, Text.segments_append, List.foldlM_append]
  rfl

/-- Whether a payload holds an equal value under every path. -/
def holdIn (fields : Fields) (payload : Value) : Bool :=
  fields.entries.all fun (path, expected) => (lookup payload path).any fun v => v.same expected

/-- The document of the fields. -/
def toDocument (fields : Fields) : Document :=
  .record (fields.entries.map fun (path, v) => (path, v.toDocument))

/-- Reads fields. -/
def ofDocument? : Decoder Fields :=
  Decoder.map Decoder.value

end Fields

/-- The fields that identify a proposal of each kind. -/
def ProposalKind.fields : ProposalKind → Fields
  | addMember _ role => .ofList [("role", .string role)]
  | addOrUpdateRole role => .ofList [("role.name", .string role.name)]
  | prepareNft nft => .ofList [("nft_data.title", .nullable .string nft.title)]
  | updatePreparedNft id _ => .ofList [("id", .nat id.toNat)]
  | mintRoot id => .ofList [("id", .nat id.toNat)]
  | createRevenueTable rootId contract _ _ =>
    .ofList [("contract", .string contract), ("root_id", .string rootId)]
  | alterRevenueTable treeIndex _ _ => .ofList [("tree_index", .nat treeIndex.toNat)]
  | payoutRevenue treeIndexes =>
    .ofList [("tree_index_list", .array (treeIndexes.map fun i => .nat i.toNat))]
  | resendFailedTransaction failedId _ => .ofList [("failed_id", .nat failedId.toNat)]

end Governance
