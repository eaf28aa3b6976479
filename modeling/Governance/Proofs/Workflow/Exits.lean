import Governance.Proofs.Workflow.Sequence

/-!
# Where an operation ends

Submitting and resolving are a few steps each, and each step is a place where they may end. Here the contract may
look at the whole setting and work on it (`Workflow.around`), and the store is any store of the session. For
each place there is a lemma that says what the steps before it did: what was answered there, and what was left.
-/

namespace Governance

namespace Workflow

variable {σ τ ρ : Type} {contract : GovernanceContract (StateM (Setting σ τ ρ))}
  {store : SessionStore (StateM τ)} {stamp : StateM ρ (Uuid × Timestamp)} {options : ScanOptions}
  {patience : Nat}

/-- The workflow over a contract that may work on the whole setting, with a store of the session and a source of
stamps. -/
def around (contract : GovernanceContract (StateM (Setting σ τ ρ))) (store : SessionStore (StateM τ))
    (stamp : StateM ρ (Uuid × Timestamp)) (options : ScanOptions) (patience : Nat) :
    Workflow (StateM (Setting σ τ ρ)) where
  contract
  session := store.onSetting.session
  stamp := zoom Setting.stamps (fun r w => { w with stamps := r }) stamp
  options
  patience

variable {w w₁ w₂ : Setting σ τ ρ} {t t' : τ} {e : Error}

/-! ## Submitting -/

section

variable {input : ProposalInput} {baseline : UInt64} {key : CorrelationKey}

theorem submit_unread (read : contract.lastProposalId w = (.error e, w₁)) :
    (around contract store stamp options patience).submit input w = (.error e, w₁) :=
  run_bind_error read

/-- Once the baseline is read, the key is saved. -/
theorem submit_after_read (read : contract.lastProposalId w = (.ok baseline, w₁))
    (made : key = .forKind baseline input.kind (stamp w₁.stamps).1.1 (stamp w₁.stamps).1.2) :
    (around contract store stamp options patience).submit input w =
      (do
        store.onSetting.saveKey key
        match ← ExceptT.lift (contract.submitProposal input).run with
        | .ok reportedId => return ⟨key, reportedId⟩
        | .error e =>
          let _ ← store.onSetting.invalidate key.token
          throw e : ExceptT Error (StateM (Setting σ τ ρ)) PendingProposal)
        { w₁ with stamps := (stamp w₁.stamps).2 } := by
  subst made
  have read : (around contract store stamp options patience).contract.lastProposalId w =
      (.ok baseline, w₁) := read
  rw [submit, run_bind_ok read, run_bind_ok (run_lift _)]
  rfl

theorem submit_unsaved (read : contract.lastProposalId w = (.ok baseline, w₁))
    (made : key = .forKind baseline input.kind (stamp w₁.stamps).1.1 (stamp w₁.stamps).1.2)
    (saves : store.saveKey key w₁.session = (.error e, t)) :
    (around contract store stamp options patience).submit input w =
      (.error e, ⟨w₁.contract, t, (stamp w₁.stamps).2⟩) := by
  rw [submit_after_read read made]
  exact run_bind_error (SessionStore.run_call (.save key) saves)

section

variable (read : contract.lastProposalId w = (.ok baseline, w₁))
  (made : key = .forKind baseline input.kind (stamp w₁.stamps).1.1 (stamp w₁.stamps).1.2)
  (saves : store.saveKey key w₁.session = (.ok (), t))

include read made saves

theorem submit_taken {reported : Option UInt64}
    (sends : contract.submitProposal input ⟨w₁.contract, t, (stamp w₁.stamps).2⟩ =
      (.ok reported, w₂)) :
    (around contract store stamp options patience).submit input w = (.ok ⟨key, reported⟩, w₂) := by
  have saves' : store.onSetting.saveKey key { w₁ with stamps := (stamp w₁.stamps).2 } = _ :=
    SessionStore.run_call (.save key) saves
  rw [submit_after_read read made, run_bind_ok saves', run_bind_ok (run_lift _)]
  dsimp only [ExceptT.run]
  rw [sends]
  rfl

/-- A submission that was not taken gives up the key that it has saved. -/
theorem submit_gives_up (sends : contract.submitProposal input
      ⟨w₁.contract, t, (stamp w₁.stamps).2⟩ = (.error e, w₂)) {own : Bool}
    (clears : store.invalidate key.token w₂.session = (.ok own, t')) :
    (around contract store stamp options patience).submit input w =
      (.error e, { w₂ with session := t' }) := by
  have saves' : store.onSetting.saveKey key { w₁ with stamps := (stamp w₁.stamps).2 } = _ :=
    SessionStore.run_call (.save key) saves
  rw [submit_after_read read made, run_bind_ok saves', run_bind_ok (run_lift _)]
  dsimp only [ExceptT.run]
  rw [sends]
  exact run_bind_ok (SessionStore.run_call (.invalidate key.token) clears)

end

end

/-! ## Resolving -/

section

variable {key : CorrelationKey} {id : UInt64}

theorem resolvePending_unloaded (loads : store.loadKey w.session = (.error e, t)) :
    (around contract store stamp options patience).resolvePending w =
      (.error e, { w with session := t }) :=
  run_bind_error (SessionStore.run_call .load loads)

theorem resolvePending_unfound (loads : store.loadKey w.session = (.ok key, t))
    (resolves : contract.resolve options patience key { w with session := t } = (.error e, w₁)) :
    (around contract store stamp options patience).resolvePending w = (.error e, w₁) := by
  unfold resolvePending
  exact (run_bind_ok (SessionStore.run_call .load loads)).trans (run_bind_error resolves)

section

variable {s : σ} {t₁ t₂ t₃ : τ} {r : ρ} {own : Bool} (loads : store.loadKey w.session = (.ok key, t))
  (resolves : contract.resolve options patience key { w with session := t } = (.ok id, ⟨s, t₁, r⟩))

include loads resolves

/-- Once its proposal is found, only the session is worked on. -/
theorem resolvePending_after_search :
    (around contract store stamp options patience).resolvePending w =
      (do
        let _ ← store.onSetting.invalidate key.token
        store.onSetting.recordResolved id
        return id : ExceptT Error (StateM (Setting σ τ ρ)) UInt64) ⟨s, t₁, r⟩ := by
  unfold resolvePending
  exact (run_bind_ok (SessionStore.run_call .load loads)).trans (run_bind_ok resolves)

theorem resolvePending_uncleared (clears : store.invalidate key.token t₁ = (.error e, t₂)) :
    (around contract store stamp options patience).resolvePending w = (.error e, ⟨s, t₂, r⟩) := by
  have clears' : store.onSetting.invalidate key.token ⟨s, t₁, r⟩ = (.error e, ⟨s, t₂, r⟩) :=
    SessionStore.run_call (.invalidate key.token) clears
  rw [resolvePending_after_search loads resolves]
  exact run_bind_error clears'

section

variable (clears : store.invalidate key.token t₁ = (.ok own, t₂))

include clears

theorem resolvePending_unrecorded (records : store.recordResolved id t₂ = (.error e, t₃)) :
    (around contract store stamp options patience).resolvePending w = (.error e, ⟨s, t₃, r⟩) := by
  have clears' : store.onSetting.invalidate key.token ⟨s, t₁, r⟩ = (.ok own, ⟨s, t₂, r⟩) :=
    SessionStore.run_call (.invalidate key.token) clears
  have records' : store.onSetting.recordResolved id ⟨s, t₂, r⟩ = (.error e, ⟨s, t₃, r⟩) :=
    SessionStore.run_call (.record id) records
  rw [resolvePending_after_search loads resolves, run_bind_ok clears']
  exact run_bind_error records'

/-- A key whose proposal was found is consumed, and the proposal remembered. -/
theorem resolvePending_found (records : store.recordResolved id t₂ = (.ok (), t₃)) :
    (around contract store stamp options patience).resolvePending w = (.ok id, ⟨s, t₃, r⟩) := by
  have clears' : store.onSetting.invalidate key.token ⟨s, t₁, r⟩ = (.ok own, ⟨s, t₂, r⟩) :=
    SessionStore.run_call (.invalidate key.token) clears
  have records' : store.onSetting.recordResolved id ⟨s, t₂, r⟩ = (.ok (), ⟨s, t₃, r⟩) :=
    SessionStore.run_call (.record id) records
  rw [resolvePending_after_search loads resolves, run_bind_ok clears']
  exact run_bind_ok records'

end

end

end

end Workflow

end Governance
