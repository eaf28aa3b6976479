import Governance.Correlation.Polling
import Governance.Session.Pending

/-!
# The workflow of a proposal

Every action follows one course: the ID that the next proposal will receive is read and a key is saved in the
session; the proposal is submitted; and the proposal that the contract made of it is found and the key is
consumed. The key is saved before anything is sent, so that the proposal can be found also after a restart,
and given up if sending fails.
-/

namespace Governance

/-- What a workflow needs. -/
structure Workflow (m : Type → Type) where
  contract : GovernanceContract m
  session : PersistedSession m
  options : ScanOptions
  /-- How many delays are granted while a proposal is looked for. -/
  patience : Nat
  /-- A token that was not used before, and the time. -/
  stamp : m (Uuid × Timestamp)

/-- A proposal that was submitted and has not been found yet. -/
structure PendingProposal where
  /-- The key that was saved. -/
  key : CorrelationKey
  /-- The ID that the contract reported, if it did. -/
  reportedId : Option UInt64
  deriving DecidableEq

namespace Workflow

variable {m : Type → Type} [Monad m]

/-- Saves a key and submits a proposal. -/
def submit (w : Workflow m) (input : ProposalInput) : ExceptT Error m PendingProposal := do
  let baseline ← w.contract.lastProposalId
  let (token, now) ← ExceptT.lift w.stamp
  let key := CorrelationKey.forKind baseline input.kind token now
  w.session.saveKey key
  match ← ExceptT.lift (w.contract.submitProposal input).run with
  | .ok reportedId => return ⟨key, reportedId⟩
  | .error e =>
    let _ ← w.session.invalidate token
    throw e

/-- Finds the proposal of a key. -/
def resolve (w : Workflow m) (key : CorrelationKey) : ExceptT Error m UInt64 :=
  w.contract.resolve w.options w.patience key

/-- Finds the proposal of the pending key and consumes the key. -/
def resolvePending (w : Workflow m) : ExceptT Error m UInt64 := do
  let key ← w.session.loadKey
  let id ← w.resolve key
  let _ ← w.session.invalidate key.token
  w.session.recordResolved id
  return id

/-- Submits a proposal and finds it. -/
def submitAndResolve (w : Workflow m) (input : ProposalInput) : ExceptT Error m UInt64 := do
  let _ ← w.submit input
  w.resolvePending

/-- Votes on a proposal. -/
def vote (w : Workflow m) (id : UInt64) (action : ProposalAction) : ExceptT Error m VoteOutcome :=
  w.contract.vote id action

/-- Votes for a proposal. -/
def approve (w : Workflow m) (id : UInt64) : ExceptT Error m VoteOutcome :=
  w.vote id .approve

end Workflow

end Governance
