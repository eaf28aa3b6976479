import Governance.Error
import Governance.Proposal.Basic

/-!
# The governance contract

What finding and submitting proposals need of a contract, over any monad: an implementation may keep the
contract in memory, reach it over a network, or answer as it likes.
-/

namespace Governance

/-- A governance contract. -/
structure GovernanceContract (m : Type → Type) where
  /-- Submits a proposal. The contract may report the ID it gave it. -/
  submitProposal : ProposalInput → ExceptT Error m (Option UInt64)
  /-- The ID that the next proposal will receive. -/
  lastProposalId : ExceptT Error m UInt64
  /-- At most `limit` proposals with IDs from `fromIndex` on. -/
  listProposals : (fromIndex limit : UInt64) → ExceptT Error m (List Proposal)
  /-- Votes on a proposal. -/
  vote : UInt64 → ProposalAction → ExceptT Error m VoteOutcome

end Governance
