import Governance.Contract
import Governance.Proofs.Runs

/-!
# Contracts that list proposals by ID

What is promised by a contract that keeps its proposals in a list. `pageOf` is the answer to a request for a
range of IDs; if IDs are positions (`Numbered`), a page is a part of the list (`pageOf_eq_take_drop`). A
contract may be asked without changing its list (`GovernanceContract.Lists`), or other users may append
proposals between any two calls (`GovernanceContract.Appends`). The contract of `ledger` keeps nothing but
the list and meets both.
-/

namespace Governance

/-- The proposals of a list with IDs in a range, in the order of the list. -/
def pageOf (ps : List Proposal) (fromIndex limit : UInt64) : List Proposal :=
  ps.filter fun p => decide (fromIndex ≤ p.id ∧ p.id.toNat < fromIndex.toNat + limit.toNat)

/-- IDs are positions: 0, 1, 2 and so on without a gap. -/
def Numbered (ps : List Proposal) : Prop :=
  ∀ (i : Nat) (p : Proposal), ps[i]? = some p → p.id.toNat = i

theorem numbered_nil : Numbered [] :=
  fun _ _ h => by cases h

/-- A proposal of a numbered list stands at the position of its ID. -/
theorem Numbered.getElem?_id {ps : List Proposal} (h : Numbered ps) {p : Proposal} (hp : p ∈ ps) :
    ps[p.id.toNat]? = some p := by
  obtain ⟨i, hi⟩ := List.mem_iff_getElem?.1 hp
  rw [h i p hi]
  exact hi

theorem Numbered.id_lt_length {ps : List Proposal} (h : Numbered ps) {p : Proposal} (hp : p ∈ ps) :
    p.id.toNat < ps.length :=
  (List.getElem?_eq_some_iff.1 (h.getElem?_id hp)).1

/-- A page of a numbered list is the part of it that begins at the index. -/
theorem pageOf_eq_take_drop {ps : List Proposal} (h : Numbered ps) (fromIndex limit : UInt64) :
    pageOf ps fromIndex limit = (ps.drop fromIndex.toNat).take limit.toNat := by
  have before : ∀ p ∈ ps.take fromIndex.toNat, p.id.toNat < fromIndex.toNat := by
    intro p hp
    obtain ⟨i, hi⟩ := List.mem_iff_getElem?.1 hp
    rw [List.getElem?_take] at hi
    split at hi
    · next lt => rw [h i p hi]; exact lt
    · cases hi
  have inside : ∀ p ∈ (ps.drop fromIndex.toNat).take limit.toNat,
      fromIndex.toNat ≤ p.id.toNat ∧ p.id.toNat < fromIndex.toNat + limit.toNat := by
    intro p hp
    obtain ⟨i, hi⟩ := List.mem_iff_getElem?.1 hp
    rw [List.getElem?_take] at hi
    split at hi
    · next lt =>
      rw [List.getElem?_drop] at hi
      rw [h _ p hi]
      omega
    · cases hi
  have after : ∀ p ∈ (ps.drop fromIndex.toNat).drop limit.toNat,
      fromIndex.toNat + limit.toNat ≤ p.id.toNat := by
    intro p hp
    obtain ⟨i, hi⟩ := List.mem_iff_getElem?.1 hp
    rw [List.drop_drop, List.getElem?_drop] at hi
    rw [h _ p hi]
    omega
  -- the list falls into what stands before the page, the page, and what stands after it
  have parts : ps = ps.take fromIndex.toNat ++ ((ps.drop fromIndex.toNat).take limit.toNat ++
      (ps.drop fromIndex.toNat).drop limit.toNat) := by
    rw [List.take_append_drop, List.take_append_drop]
  calc pageOf ps fromIndex limit
      = pageOf (ps.take fromIndex.toNat) fromIndex limit ++
          (pageOf ((ps.drop fromIndex.toNat).take limit.toNat) fromIndex limit ++
            pageOf ((ps.drop fromIndex.toNat).drop limit.toNat) fromIndex limit) := by
        rw [pageOf, pageOf, pageOf, pageOf, ← List.filter_append, ← List.filter_append, ← parts]
    _ = [] ++ ((ps.drop fromIndex.toNat).take limit.toNat ++ []) := by
        congr 1
        · refine List.filter_eq_nil_iff.2 fun p hp => ?_
          have := before p hp
          rw [decide_eq_true_iff, UInt64.le_iff_toNat_le]
          omega
        · congr 1
          · refine List.filter_eq_self.2 fun p hp => ?_
            rw [decide_eq_true_iff, UInt64.le_iff_toNat_le]
            exact inside p hp
          · refine List.filter_eq_nil_iff.2 fun p hp => ?_
            have := after p hp
            rw [decide_eq_true_iff]
            omega
    _ = (ps.drop fromIndex.toNat).take limit.toNat := by
        rw [List.nil_append, List.append_nil]

/-! ## Promises of contracts -/

namespace GovernanceContract

variable {σ : Type}

/-- A contract that answers requests for proposals out of a list, which being asked does not change. Nothing
is promised for a range that reaches beyond the last 64-bit ID. -/
structure Lists (contract : GovernanceContract (StateM σ)) (listed : σ → List Proposal) : Prop where
  listProposals : ∀ s (fromIndex limit : UInt64), fromIndex.toNat + limit.toNat < UInt64.size →
    ∃ t, contract.listProposals fromIndex limit s = (.ok (pageOf (listed s) fromIndex limit), t) ∧
      listed t = listed s

/-- A contract that keeps all proposals in a list in which IDs are positions. It reports the number of
proposals as the ID that the next one will receive, and puts what is submitted at the end of the list, in
progress and with the submitted kind. Whatever other users append between a call and the next one is
there when the next call is made. Nothing is promised once all 64-bit IDs are used. -/
structure Appends (contract : GovernanceContract (StateM σ)) (listed : σ → List Proposal) : Prop where
  lastProposalId : ∀ s, Numbered (listed s) → (listed s).length < UInt64.size →
    ∃ t others, contract.lastProposalId s = (.ok (.ofNat (listed s).length), t) ∧
      listed t = listed s ++ others ∧ Numbered (listed t)
  submitProposal : ∀ s input, Numbered (listed s) → (listed s).length < UInt64.size →
    ∃ t p others reported, contract.submitProposal input s = (.ok reported, t) ∧
      listed t = listed s ++ p :: others ∧ Numbered (listed t) ∧
      p.kind = .known input.kind ∧ p.status = .inProgress
  listProposals : ∀ s (fromIndex limit : UInt64), Numbered (listed s) →
    fromIndex.toNat + limit.toNat < UInt64.size →
    ∃ t others, contract.listProposals fromIndex limit s =
        (.ok (pageOf (listed s) fromIndex limit), t) ∧
      listed t = listed s ++ others ∧ Numbered (listed t)

/-! ## A ledger -/

/-- What a submission becomes under a given ID. -/
def recorded (id : UInt64) (input : ProposalInput) : Proposal where
  id
  proposer := ""
  description := input.description
  kind := .known input.kind
  status := .inProgress
  votes := .empty
  submissionTime := ""

/-- A list with a further submission, if there is an ID left for it. -/
def record (ps : List Proposal) (input : ProposalInput) : List Proposal :=
  if ps.length < UInt64.size then ps ++ [recorded (.ofNat ps.length) input] else ps

/-- The contract that keeps a list and nothing else; `others` says what other users submit between a call
and the next one. Nobody may vote. -/
def ledger (others : List Proposal → List ProposalInput) :
    GovernanceContract (StateM (List Proposal)) where
  submitProposal input := ExceptT.mk fun ps =>
    let ps := record ps input
    (.ok none, (others ps).foldl record ps)
  lastProposalId := ExceptT.mk fun ps => (.ok (.ofNat ps.length), (others ps).foldl record ps)
  listProposals fromIndex limit := ExceptT.mk fun ps =>
    (.ok (pageOf ps fromIndex limit), (others ps).foldl record ps)
  vote _ _ := throw (.invalidInput (.stated "voting is closed"))

theorem numbered_record {ps : List Proposal} (h : Numbered ps) (input : ProposalInput) :
    Numbered (record ps input) := by
  unfold record
  split
  · next room =>
    intro i p hp
    rw [List.getElem?_append] at hp
    split at hp
    · exact h i p hp
    · next past =>
      obtain ⟨hi, rfl⟩ := List.getElem?_eq_some_iff.1 hp
      have only : i = ps.length := by
        rw [List.length_singleton] at hi
        omega
      subst only
      simp only [Nat.sub_self, List.getElem_cons_zero, recorded, UInt64.toNat_ofNat']
      exact Nat.mod_eq_of_lt room
  · exact h

/-- What other users submit goes to the end of the list. -/
theorem foldl_record {ps : List Proposal} (h : Numbered ps) (inputs : List ProposalInput) :
    ∃ added, inputs.foldl record ps = ps ++ added ∧ Numbered (inputs.foldl record ps) := by
  induction inputs generalizing ps with
  | nil => exact ⟨[], (List.append_nil ps).symm, h⟩
  | cons input inputs ih =>
    obtain ⟨added, eq, numbered⟩ := ih (numbered_record h input)
    have first : ∃ more, record ps input = ps ++ more := by
      unfold record
      split
      · exact ⟨_, rfl⟩
      · exact ⟨[], (List.append_nil ps).symm⟩
    obtain ⟨more, grown⟩ := first
    refine ⟨more ++ added, ?_, numbered⟩
    rw [List.foldl_cons, eq, grown, List.append_assoc]

theorem ledger_appends (others : List Proposal → List ProposalInput) :
    (ledger others).Appends fun ps => ps where
  lastProposalId ps h _ := by
    obtain ⟨added, grown, numbered⟩ := foldl_record h (others ps)
    exact ⟨_, added, rfl, grown, numbered⟩
  submitProposal ps input h room := by
    obtain ⟨added, grown, numbered⟩ :=
      foldl_record (numbered_record h input) (others (record ps input))
    refine ⟨_, recorded (.ofNat ps.length) input, added, none, rfl, ?_, numbered, rfl, rfl⟩
    rw [grown, record, if_pos room, List.append_assoc]
    rfl
  listProposals ps fromIndex limit h _ := by
    obtain ⟨added, grown, numbered⟩ := foldl_record h (others ps)
    exact ⟨_, added, rfl, grown, numbered⟩

/-- A ledger to which nobody else submits stays as it is while it is asked. -/
theorem ledger_lists : (ledger fun _ => []).Lists fun ps => ps where
  listProposals ps _ _ _ := ⟨ps, rfl, rfl⟩

end GovernanceContract

end Governance
