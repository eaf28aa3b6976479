import Governance.Proofs.Contract.Listing
import Governance.Proofs.Correlation.Matching

/-!
# Registers that change

Between two calls of a contract others may submit proposals, votes may be counted, and proposals may be removed.
What stays is that an ID, once assigned, is not assigned again, and that a closed vote is not opened again
(`Register.Becomes`). So a proposal that matches a key under an ID that was assigned before matched the key before
(`Register.Becomes.describes`). A contract may promise no more than this (`GovernanceContract.Assigns`), or
also answer every range of IDs out of a list without gaps (`GovernanceContract.Ranges`).
-/

namespace Governance

/-- What becomes of a proposal: it keeps its ID and its kind, and a vote that is closed stays closed. -/
structure Proposal.Becomes (p q : Proposal) : Prop where
  id : q.id = p.id
  kind : q.kind = p.kind
  inProgress : q.status = .inProgress → p.status = .inProgress

namespace Proposal.Becomes

theorem refl (p : Proposal) : p.Becomes p :=
  ⟨rfl, rfl, fun progress => progress⟩

theorem trans {p q r : Proposal} (first : p.Becomes q) (second : q.Becomes r) : p.Becomes r where
  id := second.id.trans first.id
  kind := second.kind.trans first.kind
  inProgress h := first.inProgress (second.inProgress h)

/-- A proposal that matches a key has matched it all the time. -/
theorem describes {p q : Proposal} (h : p.Becomes q) {key : CorrelationKey} (described : key.Describes q) :
    key.Describes p where
  inProgress := h.inProgress described.inProgress
  holds := by
    rw [← h.kind]
    exact described.holds

end Proposal.Becomes

/-- The proposals that a contract holds, and the first ID that was not assigned yet. -/
structure Register where
  proposals : List Proposal
  next : Nat

namespace Register

/-- The register of a list in which IDs are positions. -/
def counting (ps : List Proposal) : Register :=
  ⟨ps, ps.length⟩

/-- What becomes of a register: what is held under an ID that was assigned before was held before. -/
structure Becomes (r r' : Register) : Prop where
  next_le : r.next ≤ r'.next
  earlier : ∀ q ∈ r'.proposals, q.id.toNat < r.next → ∃ p ∈ r.proposals, p.Becomes q

namespace Becomes

theorem refl (r : Register) : r.Becomes r :=
  ⟨Nat.le_refl _, fun p hp _ => ⟨p, hp, .refl p⟩⟩

theorem trans {r r' r'' : Register} (first : r.Becomes r') (second : r'.Becomes r'') :
    r.Becomes r'' where
  next_le := Nat.le_trans first.next_le second.next_le
  earlier := by
    intro q hq assigned
    obtain ⟨p', hp', becomes'⟩ :=
      second.earlier q hq (Nat.lt_of_lt_of_le assigned first.next_le)
    rw [becomes'.id] at assigned
    obtain ⟨p, hp, becomes⟩ := first.earlier p' hp' assigned
    exact ⟨p, hp, becomes.trans becomes'⟩

/-- A proposal that matches a key under an ID that was assigned before has matched it before. -/
theorem describes {r r' : Register} (h : r.Becomes r') {key : CorrelationKey} {q : Proposal}
    (hq : q ∈ r'.proposals) (assigned : q.id.toNat < r.next) (described : key.Describes q) :
    ∃ p ∈ r.proposals, p.id = q.id ∧ key.Describes p := by
  obtain ⟨p, hp, becomes⟩ := h.earlier q hq assigned
  exact ⟨p, hp, becomes.id.symm, becomes.describes described⟩

end Becomes

end Register

namespace GovernanceContract

variable {σ : Type}

/-! ## Promises -/

/-- A contract that reports the first ID that was not assigned, and lists what it holds. Nothing is promised
about which proposals a page leaves out, and every call may fail. What is submitted, by whomever, gets an
ID that was not assigned before, since what has an older one was held before. -/
structure Assigns (contract : GovernanceContract (StateM σ)) (register : σ → Register) : Prop where
  /-- The reported ID is the next one, as long as there are IDs left. -/
  lastProposalId : ∀ s id, (contract.lastProposalId s).1 = .ok id →
    (register s).next < UInt64.size → id.toNat = (register s).next
  /-- What is on a page is held, under an ID from the index on. -/
  page : ∀ s fromIndex limit page, (contract.listProposals fromIndex limit s).1 = .ok page →
    ∀ p ∈ page, p ∈ (register s).proposals ∧ fromIndex ≤ p.id
  after_lastProposalId : ∀ s, (register s).Becomes (register (contract.lastProposalId s).2)
  after_submitProposal : ∀ s input,
    (register s).Becomes (register (contract.submitProposal input s).2)
  after_listProposals : ∀ s fromIndex limit,
    (register s).Becomes (register (contract.listProposals fromIndex limit s).2)

/-- A contract that answers every request for a range of IDs out of a list in which IDs are positions. Others
may append to it, and close votes, between a call and the next one. -/
structure Ranges (contract : GovernanceContract (StateM σ)) (listed : σ → List Proposal) : Prop where
  listProposals : ∀ s (fromIndex limit : UInt64), Numbered (listed s) →
    ∃ t, contract.listProposals fromIndex limit s = (.ok (pageOf (listed s) fromIndex limit), t) ∧
      Numbered (listed t) ∧ (Register.counting (listed s)).Becomes (.counting (listed t))

/-! ## The ledger -/

/-- A submission leaves everything in place. -/
theorem record_becomes (ps : List Proposal) (input : ProposalInput) :
    (Register.counting ps).Becomes (.counting (record ps input)) := by
  unfold record
  split
  · next room =>
    refine ⟨?_, ?_⟩
    · show ps.length ≤ (ps ++ _).length
      rw [List.length_append]
      omega
    · intro q hq assigned
      rcases List.mem_append.1 hq with here | new
      · exact ⟨q, here, .refl q⟩
      · -- the new proposal has the first ID that was not assigned
        rw [List.mem_singleton.1 new] at assigned
        have place : (UInt64.ofNat ps.length).toNat = ps.length :=
          UInt64.toNat_ofNat_of_lt' room
        have below : (UInt64.ofNat ps.length).toNat < ps.length := assigned
        omega
  · exact .refl _

theorem foldl_record_becomes (ps : List Proposal) (inputs : List ProposalInput) :
    (Register.counting ps).Becomes (.counting (inputs.foldl record ps)) := by
  induction inputs generalizing ps with
  | nil => exact .refl _
  | cons input inputs ih => exact (record_becomes ps input).trans (ih _)

theorem ledger_assigns (others : List Proposal → List ProposalInput) :
    (ledger others).Assigns .counting where
  lastProposalId ps id reported room := by
    have same : UInt64.ofNat ps.length = id := Except.ok.inj reported
    rw [← same]
    exact UInt64.toNat_ofNat_of_lt' room
  page ps fromIndex limit page listed p hp := by
    have same : pageOf ps fromIndex limit = page := Except.ok.inj listed
    rw [← same, pageOf, List.mem_filter, decide_eq_true_iff] at hp
    exact ⟨hp.1, hp.2.1⟩
  after_lastProposalId ps := foldl_record_becomes ps _
  after_submitProposal ps input := (record_becomes ps input).trans (foldl_record_becomes _ _)
  after_listProposals ps _ _ := foldl_record_becomes ps _

theorem ledger_ranges (others : List Proposal → List ProposalInput) :
    (ledger others).Ranges fun ps => ps where
  listProposals ps _ _ h := by
    obtain ⟨_, _, numbered⟩ := foldl_record h (others ps)
    exact ⟨_, rfl, numbered, foldl_record_becomes ps _⟩

end GovernanceContract

end Governance
