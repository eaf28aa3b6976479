import Governance.Contract
import Governance.Proofs.Runs

/-!
# Contracts that keep a log

What a client asks of a contract is seen by putting a log beside the state of the contract
(`GovernanceContract.logged`): every call is written down with its answer, and the contract behind does
what it did without the log.
-/

namespace Governance

variable {σ α : Type}

/-- A call of a contract, with its answer. -/
inductive ContractCall
  | submit (input : ProposalInput) (answer : Except Error (Option UInt64))
  | lastId (answer : Except Error UInt64)
  | list (fromIndex limit : UInt64) (answer : Except Error (List Proposal))
  | vote (id : UInt64) (action : ProposalAction) (answer : Except Error VoteOutcome)

/-- Carries an action out and writes down what it answered. -/
def noted (call : Except Error α → ContractCall) (action : ExceptT Error (StateM σ) α) :
    ExceptT Error (StateM (σ × List ContractCall)) α :=
  ExceptT.mk fun (s, log) =>
    let (answer, t) := action.run s
    (answer, (t, log ++ [call answer]))

/-- The same contract, with a log of the calls. -/
def GovernanceContract.logged (contract : GovernanceContract (StateM σ)) :
    GovernanceContract (StateM (σ × List ContractCall)) where
  submitProposal input := noted (.submit input) (contract.submitProposal input)
  lastProposalId := noted .lastId contract.lastProposalId
  listProposals fromIndex limit :=
    noted (.list fromIndex limit) (contract.listProposals fromIndex limit)
  vote id action := noted (.vote id action) (contract.vote id action)

/-- A call that is written down has the answer it has without the log. -/
theorem run_noted {call : Except Error α → ContractCall} {action : ExceptT Error (StateM σ) α}
    {s t : σ} {answer : Except Error α} (h : action s = (answer, t)) (log : List ContractCall) :
    noted call action (s, log) = (answer, (t, log ++ [call answer])) := by
  simp only [noted, ExceptT.mk, ExceptT.run, h]

theorem logged_listProposals {contract : GovernanceContract (StateM σ)} {fromIndex limit : UInt64}
    {s t : σ} {answer : Except Error (List Proposal)}
    (h : contract.listProposals fromIndex limit s = (answer, t)) (log : List ContractCall) :
    contract.logged.listProposals fromIndex limit (s, log) =
      (answer, (t, log ++ [.list fromIndex limit answer])) :=
  run_noted h log

end Governance
