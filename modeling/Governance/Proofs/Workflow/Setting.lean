import Governance.Proofs.Contract.Listing
import Governance.Proofs.Correlation.Matching
import Governance.Proofs.Session.Refinement
import Governance.Workflow

/-!
# What a workflow works on

A workflow deals with a contract, a session and a source of tokens and times. Here each of them has a state of
its own (`Setting`), and what is done to one does not reach the others: a contract works on its part as it
does alone (`assemble_scan`), and a store keeps its entries and leaves the rest (`onSetting_keptAs`).
-/

namespace Governance

/-- The same contract, its actions carried over to another monad. -/
def GovernanceContract.hoist {m n : Type → Type} (carry : ∀ {α : Type}, m α → n α)
    (contract : GovernanceContract m) : GovernanceContract n where
  submitProposal input := ExceptT.mk (carry (contract.submitProposal input).run)
  lastProposalId := ExceptT.mk (carry contract.lastProposalId.run)
  listProposals fromIndex limit := ExceptT.mk (carry (contract.listProposals fromIndex limit).run)
  vote id action := ExceptT.mk (carry (contract.vote id action).run)

/-- The states of a contract, of a session, and of a source of tokens and times. -/
structure Setting (σ τ ρ : Type) where
  contract : σ
  session : τ
  stamps : ρ

namespace Setting

variable {σ τ ρ α : Type} {w : Setting σ τ ρ} {outcome : Except Error α}

/-- What is done to the contract comes to what it comes to alone. -/
theorem run_contract {x : ExceptT Error (StateM σ) α} {s : σ} (h : x w.contract = (outcome, s)) :
    (ExceptT.mk (zoom contract (fun s w => { w with contract := s }) x.run) :
      ExceptT Error (StateM (Setting σ τ ρ)) α) w = (outcome, { w with contract := s }) := by
  show ((x w.contract).1, { w with contract := (x w.contract).2 }) = _
  rw [h]

/-- What is done to the session comes to what it comes to alone. -/
theorem run_session {x : ExceptT Error (StateM τ) α} {t : τ} (h : x w.session = (outcome, t)) :
    (ExceptT.mk (zoom session (fun t w => { w with session := t }) x.run) :
      ExceptT Error (StateM (Setting σ τ ρ)) α) w = (outcome, { w with session := t }) := by
  show ((x w.session).1, { w with session := (x w.session).2 }) = _
  rw [h]

end Setting

/-- A store of the session, as a store on the whole setting. -/
def SessionStore.onSetting {σ τ ρ : Type} (store : SessionStore (StateM τ)) :
    SessionStore (StateM (Setting σ τ ρ)) :=
  store.hoist (zoom Setting.session fun t w => { w with session := t })

namespace Workflow

variable {σ τ ρ : Type}

/-- The workflow over a contract, a store and a source of stamps that have nothing in common. -/
def assemble (contract : GovernanceContract (StateM σ)) (store : SessionStore (StateM τ))
    (stamp : StateM ρ (Uuid × Timestamp)) (options : ScanOptions) (patience : Nat) :
    Workflow (StateM (Setting σ τ ρ)) where
  contract := contract.hoist (zoom Setting.contract fun s w => { w with contract := s })
  session := store.onSetting.session
  stamp := zoom Setting.stamps (fun r w => { w with stamps := r }) stamp
  options
  patience

variable {contract : GovernanceContract (StateM σ)} {store : SessionStore (StateM τ)}
  {stamp : StateM ρ (Uuid × Timestamp)} {options : ScanOptions} {patience : Nat}
  {held : τ → StringMap String → Prop}

/-! ## The contract -/

/-- Pages are read as from the contract alone. -/
theorem assemble_scanPages (key : CorrelationKey) (start : UInt64) (pages : Nat) (isFirst : Bool)
    (index : UInt64) (scanned : Nat) (w : Setting σ τ ρ) :
    (assemble contract store stamp options patience).contract.scanPages options key start pages
        isFirst index scanned w =
      ((contract.scanPages options key start pages isFirst index scanned w.contract).1,
        { w with
          contract :=
            (contract.scanPages options key start pages isFirst index scanned w.contract).2 }) := by
  induction pages generalizing isFirst index scanned w with
  | zero => rfl
  | succ pages ih =>
    -- both loops get the same answer, and from then on they work on the state it left
    rcases asked : contract.listProposals index options.pageSize w.contract with ⟨answer, s⟩
    have asked' : (assemble contract store stamp options patience).contract.listProposals index
        options.pageSize w = (answer, { w with contract := s }) := Setting.run_contract asked
    cases answer with
    | error e =>
      rw [GovernanceContract.scanPages_error asked, GovernanceContract.scanPages_error asked']
    | ok page =>
      rw [GovernanceContract.scanPages_page asked, GovernanceContract.scanPages_page asked']
      cases GovernanceContract.verdict options key start isFirst scanned page with
      | some outcome => rfl
      | none => exact ih _ _ _ _

/-- A scan goes as it does on the contract alone. -/
theorem assemble_scan (key : CorrelationKey) (w : Setting σ τ ρ) :
    (assemble contract store stamp options patience).contract.scan options key w =
      ((contract.scan options key w.contract).1,
        { w with contract := (contract.scan options key w.contract).2 }) :=
  assemble_scanPages key _ _ _ _ _ w

/-- Attempts at what works on the contract work on the contract, as they do alone. -/
theorem attempts_contract {α : Type} {admits : Error → Bool} {exhausted : Error}
    {x : ExceptT Error (StateM σ) α} {y : ExceptT Error (StateM (Setting σ τ ρ)) α}
    (same : ∀ w, y w = ((x w.contract).1, { w with contract := (x w.contract).2 })) (left : Nat)
    (w : Setting σ τ ρ) :
    attempts admits exhausted y left w =
      ((attempts admits exhausted x left w.contract).1,
        { w with contract := (attempts admits exhausted x left w.contract).2 }) := by
  -- an outcome that is not worth another attempt ends both, however many are left
  have settled : ∀ left w, (∀ e, (x w.contract).1 = .error e → admits e = false) →
      attempts admits exhausted y left w =
        ((attempts admits exhausted x left w.contract).1,
          { w with contract := (attempts admits exhausted x left w.contract).2 }) := by
    intro left w decided
    have decided' : ∀ e, (y w).1 = .error e → admits e = false := by
      rw [same]
      exact decided
    rw [attempts_decided decided, attempts_decided decided', same]
  induction left generalizing w with
  | zero =>
    rcases decided_or_admitted x admits w.contract with decided | ⟨e, run, admitted⟩
    · exact settled 0 w decided
    · have run' : y w = (.error e, { w with contract := (x w.contract).2 }) := by rw [same, run]
      rw [attempts_run_exhausted run admitted, attempts_run_exhausted run' admitted]
  | succ left ih =>
    rcases decided_or_admitted x admits w.contract with decided | ⟨e, run, admitted⟩
    · exact settled (left + 1) w decided
    · have run' : y w = (.error e, { w with contract := (x w.contract).2 }) := by rw [same, run]
      rw [attempts_run_again run admitted, attempts_run_again run' admitted]
      exact ih _

/-- Looking for a proposal goes as it does on the contract alone. -/
theorem assemble_resolve (key : CorrelationKey) (w : Setting σ τ ρ) :
    (assemble contract store stamp options patience).contract.resolve options patience key w =
      ((contract.resolve options patience key w.contract).1,
        { w with contract := (contract.resolve options patience key w.contract).2 }) :=
  attempts_contract (assemble_scan key) patience w

/-! ## The session -/

/-- An action on the session mirrors what it mirrors alone, and does not touch the rest. -/
theorem mirrors_zoom {α : Type} {x : ExceptT Error (StateM τ) α}
    {y : ExceptT Error (StateM (StringMap String)) α} (h : Mirrors held x y) (s : σ) (r : ρ) :
    Mirrors (fun (w : Setting σ τ ρ) m => held w.session m ∧ w.contract = s ∧ w.stamps = r)
      (ExceptT.mk (zoom Setting.session (fun t w => { w with session := t }) x.run)) y := by
  rintro w m ⟨here, rest⟩
  obtain ⟨t, run, left⟩ := h w.session m here
  exact ⟨{ w with session := t }, Setting.run_session run, left, rest⟩

/-- The store keeps its entries as it does alone, and does not touch the rest. -/
theorem onSetting_keptAs (kept : store.KeptAs held) (s : σ) (r : ρ) :
    store.onSetting.KeptAs fun (w : Setting σ τ ρ) m =>
      held w.session m ∧ w.contract = s ∧ w.stamps = r where
  get name := mirrors_zoom (kept.get name) s r
  set name value := mirrors_zoom (kept.set name value) s r
  remove name := mirrors_zoom (kept.remove name) s r

end Workflow

end Governance
