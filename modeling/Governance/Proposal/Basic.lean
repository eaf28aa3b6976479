import Governance.Proposal.Kind

/-!
# Proposals

What is sent to propose something (`ProposalInput`), what the contract lists (`Proposal`), and what a
vote brings about (`VoteOutcome`). The contract also lists kinds of proposals that are not modelled here,
such as transfers and upgrades; they are kept as free values (`ListedKind.unrecognized`).
-/

namespace Governance

open Json

/-- How far the vote on a proposal has come. -/
inductive ProposalStatus
  | inProgress
  | approved
  | rejected
  /-- Removed as spam. -/
  | removed
  | expired
  /-- Moved to another organisation. -/
  | moved
  /-- Approved, but carrying it out failed. -/
  | failed
  deriving DecidableEq, Repr, Inhabited

namespace ProposalStatus

/-- The name of a status in JSON and in messages. -/
def name : ProposalStatus → String
  | inProgress => "InProgress"
  | approved => "Approved"
  | rejected => "Rejected"
  | removed => "Removed"
  | expired => "Expired"
  | moved => "Moved"
  | failed => "Failed"

/-- The statuses by their names. -/
def named : List (String × ProposalStatus) :=
  [inProgress, approved, rejected, removed, expired, moved, failed].map fun s => (s.name, s)

/-- The document of a status. -/
def toDocument (status : ProposalStatus) : Document :=
  .text status.name

/-- Reads a status. -/
def ofDocument? : Decoder ProposalStatus :=
  Decoder.oneOf named

end ProposalStatus

/-- A vote. -/
inductive ProposalAction
  | approve
  | reject
  /-- Remove as spam. -/
  | remove
  deriving DecidableEq, Repr, Inhabited

namespace ProposalAction

/-- The name of a vote in JSON. -/
def name : ProposalAction → String
  | approve => "VoteApprove"
  | reject => "VoteReject"
  | remove => "VoteRemove"

/-- The votes by their names. -/
def named : List (String × ProposalAction) :=
  [approve, reject, remove].map fun a => (a.name, a)

/-- The document of a vote. -/
def toDocument (action : ProposalAction) : Document :=
  .text action.name

/-- Reads a vote. -/
def ofDocument? : Decoder ProposalAction :=
  Decoder.oneOf named

end ProposalAction

/-- The kind of a listed proposal. -/
inductive ListedKind
  | known (kind : ProposalKind)
  /-- A kind that is not modelled here. -/
  | unrecognized (kind : Value)
  deriving DecidableEq

namespace ListedKind

/-- The known kind, if it is one. -/
def known? : ListedKind → Option ProposalKind
  | known kind => some kind
  | unrecognized _ => none

/-- The tag of a known kind. -/
def tag? (kind : ListedKind) : Option KindTag :=
  kind.known?.map ProposalKind.tag

/-- The document of a listed kind. -/
def toDocument : ListedKind → Document
  | known kind => kind.toDocument
  | unrecognized kind => kind.toDocument

/-- Reads a listed kind: anything that is JSON at all, and a known kind if it reads as one. -/
def ofDocument? : Decoder ListedKind := fun depth d => do
  let free ← Decoder.value depth d
  return ((ProposalKind.ofDocument? depth d).map known).getD (unrecognized free)

end ListedKind

/-- A proposal as the contract lists it. -/
structure Proposal where
  id : UInt64
  proposer : String
  description : String
  kind : ListedKind
  status : ProposalStatus
  /-- Who voted, and how. -/
  votes : StringMap Value
  /-- When it was submitted, in nanoseconds. -/
  submissionTime : String
  deriving DecidableEq

namespace Proposal

/-- The names of the fields, in order. -/
def fields : List String :=
  ["id", "proposer", "description", "kind", "status", "votes", "submission_time"]

/-- The document of a proposal. -/
def toDocument (p : Proposal) : Document :=
  .record [
    ("id", .nat p.id.toNat),
    ("proposer", .text p.proposer),
    ("description", .text p.description),
    ("kind", p.kind.toDocument),
    ("status", p.status.toDocument),
    ("votes", .record (p.votes.entries.map fun (account, v) => (account, v.toDocument))),
    ("submission_time", .text p.submissionTime)]

/-- Reads a proposal. -/
def ofDocument? : Decoder Proposal := fun depth d => do
  let r ← Decoder.record fields depth d
  return {
    id := ← r.required "id" Decoder.uint64
    proposer := ← r.required "proposer" Decoder.string
    description := ← r.required "description" Decoder.string
    kind := ← r.required "kind" ListedKind.ofDocument?
    status := ← r.required "status" ProposalStatus.ofDocument?
    votes := ← r.withDefault "votes" .empty (Decoder.map Decoder.value)
    submissionTime := ← r.withDefault "submission_time" "" Decoder.string }

/-- Whether the vote is still open. -/
def isInProgress (p : Proposal) : Bool :=
  p.status = .inProgress

end Proposal

/-- What is sent to propose something. -/
structure ProposalInput where
  description : String
  kind : ProposalKind
  deriving DecidableEq

namespace ProposalInput

/-- The document of a proposal to be sent. -/
def toDocument (input : ProposalInput) : Document :=
  .record [("description", .text input.description), ("kind", input.kind.toDocument)]

/-- The proposal to be sent as a free value. -/
def toValue (input : ProposalInput) : Value :=
  .record [("description", .string input.description), ("kind", input.kind.toValue)]

/-- Reads a proposal to be sent. -/
def ofDocument? : Decoder ProposalInput := fun depth d => do
  let r ← Decoder.record ["description", "kind"] depth d
  return {
    description := ← r.required "description" Decoder.string
    kind := ← r.required "kind" ProposalKind.ofDocument? }

end ProposalInput

/-- What a vote brought about. -/
structure VoteOutcome where
  /-- The proposal voted on. -/
  proposalId : UInt64
  /-- The hash of the transaction. -/
  transactionHash : String
  /-- What the contract returned. -/
  returnValue : Value
  deriving DecidableEq

namespace VoteOutcome

/-- The document of an outcome. -/
def toDocument (outcome : VoteOutcome) : Document :=
  .record [
    ("proposal_id", .nat outcome.proposalId.toNat),
    ("transaction_hash", .text outcome.transactionHash),
    ("return_value", outcome.returnValue.toDocument)]

/-- Reads an outcome. -/
def ofDocument? : Decoder VoteOutcome := fun depth d => do
  let r ← Decoder.record ["proposal_id", "transaction_hash", "return_value"] depth d
  return {
    proposalId := ← r.required "proposal_id" Decoder.uint64
    transactionHash := ← r.required "transaction_hash" Decoder.string
    returnValue := ← r.required "return_value" Decoder.value }

/-- The outcome in words. -/
def summary (outcome : VoteOutcome) : String :=
  s!"Voted on proposal {outcome.proposalId} (tx {outcome.transactionHash})"

end VoteOutcome

end Governance
