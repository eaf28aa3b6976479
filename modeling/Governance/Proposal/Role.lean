import Governance.Json.Decoder

/-!
# Roles

The policy of the organisation is a list of roles. A role says who belongs to it, what its members may
do, and how votes on single kinds of proposal are counted. Only roles that list their accounts have
members that can be named here.
-/

namespace Governance

open Json

/-- Who belongs to a role. -/
inductive RoleKind
  | everyone
  /-- Whoever holds at least this many tokens. -/
  | member (tokens : String)
  /-- The listed accounts. -/
  | group (accounts : List String)
  deriving DecidableEq, Repr, Inhabited

namespace RoleKind

/-- The document of a membership. -/
def toDocument : RoleKind → Document
  | everyone => .text "Everyone"
  | member tokens => .record [("Member", .text tokens)]
  | group accounts => .record [("Group", .array (accounts.map .text))]

/-- The membership as a free value. -/
def toValue : RoleKind → Value
  | everyone => .string "Everyone"
  | member tokens => .record [("Member", .string tokens)]
  | group accounts => .record [("Group", .array (accounts.map .string))]

/-- Reads a membership. -/
def ofDocument? : Decoder RoleKind := fun depth d => do
  match ← Decoder.alternative depth d with
  | ("Everyone", none) => some everyone
  | ("Everyone", some (_, .null)) => some everyone
  | ("Member", some (depth, d)) => (Decoder.string depth d).map member
  | ("Group", some (depth, d)) => (Decoder.list Decoder.string depth d).map group
  | _ => none

end RoleKind

/-- A role of the policy. -/
structure RolePermission where
  /-- Its name, such as `master_nft.example.near`. -/
  name : String
  /-- Who belongs to it. -/
  kind : RoleKind
  /-- What its members may do: a label of proposals, a colon, and an action. -/
  permissions : List String
  /-- How votes are counted, by kind of proposal, where it differs from the policy. -/
  votePolicy : StringMap Value
  deriving DecidableEq

namespace RolePermission

/-- The document of a role. -/
def toDocument (role : RolePermission) : Document :=
  .record [
    ("name", .text role.name),
    ("kind", role.kind.toDocument),
    ("permissions", .array (role.permissions.map .text)),
    ("vote_policy", .record (role.votePolicy.entries.map fun (label, v) => (label, v.toDocument)))]

/-- The role as a free value. -/
def toValue (role : RolePermission) : Value :=
  .record [
    ("name", .string role.name),
    ("kind", role.kind.toValue),
    ("permissions", .array (role.permissions.map .string)),
    ("vote_policy", .object role.votePolicy.entries)]

/-- Reads a role. -/
def ofDocument? : Decoder RolePermission := fun depth d => do
  let r ← Decoder.record ["name", "kind", "permissions", "vote_policy"] depth d
  return {
    name := ← r.required "name" Decoder.string
    kind := ← r.required "kind" RoleKind.ofDocument?
    permissions := ← r.required "permissions" (Decoder.list Decoder.string)
    votePolicy := ← r.withDefault "vote_policy" .empty (Decoder.map Decoder.value) }

/-- Whether the role is the master group of a minting contract. -/
def isMasterGroup (role : RolePermission) : Bool :=
  "master_".toList.isPrefixOf role.name.toList

/-- The accounts that the role lists. -/
def members (role : RolePermission) : List String :=
  match role.kind with
  | .group accounts => accounts
  | _ => []

end RolePermission

/-- What is read of the policy. -/
structure Policy where
  /-- All roles. -/
  roles : List RolePermission
  deriving DecidableEq

namespace Policy

/-- The document of a policy. -/
def toDocument (policy : Policy) : Document :=
  .record [("roles", .array (policy.roles.map RolePermission.toDocument))]

/-- Reads a policy. -/
def ofDocument? : Decoder Policy := fun depth d => do
  let r ← Decoder.record ["roles"] depth d
  return { roles := ← r.required "roles" (Decoder.list RolePermission.ofDocument?) }

/-- The master groups among the roles. -/
def masterGroups (policy : Policy) : List RolePermission :=
  policy.roles.filter RolePermission.isMasterGroup

end Policy

end Governance
