import Governance.Proofs.Correlation.Growing
import Governance.Proofs.Correlation.Kinds
import Governance.Proofs.Workflow.Exits

/-!
# From a submission to its ID

A submission goes through two operations that have only the session in common. Submitting saves the key
(`submit_saves`), or gives it up again if the contract does not take the proposal (`submit_refused`), and
resolving takes the pending key, looks for the proposal and consumes the key (`resolvePending_consumes`). What the
session holds in between is the JSON text of the key, which is read back. Main statement: in a contract that
appends, a submission that is preceded by no look-alike resolves to the ID under which it was stored
(`submitAndResolve_finds_own`).
-/

namespace Governance

namespace Workflow

variable {σ τ ρ : Type} {contract : GovernanceContract (StateM σ)} {store : SessionStore (StateM τ)}
  {stamp : StateM ρ (Uuid × Timestamp)} {options : ScanOptions} {patience : Nat}
  {held : τ → StringMap String → Prop} {m : StringMap String}

/-- If the contract answers and takes the proposal, submitting leaves the key in the session. -/
theorem submit_saves (kept : store.KeptAs held) {input : ProposalInput} {w : Setting σ τ ρ}
    {pending : Option CorrelationKey} (here : held w.session m)
    (readable : Session.pendingKey m = .ok pending) {baseline : UInt64} {s s' : σ}
    {reported : Option UInt64} (asked : contract.lastProposalId w.contract = (.ok baseline, s))
    (sent : contract.submitProposal input s = (.ok reported, s')) {key : CorrelationKey}
    (made : key = .forKind baseline input.kind (stamp w.stamps).1.1 (stamp w.stamps).1.2) :
    ∃ w', (assemble contract store stamp options patience).submit input w =
        (.ok ⟨key, reported⟩, w') ∧
      held w'.session (Session.saved key m) ∧ w'.contract = s' := by
  obtain ⟨t, saves, left⟩ := kept.saveKey_of_readable here readable key
  have asked' : (assemble contract store stamp options patience).contract.lastProposalId w =
      (.ok baseline, ⟨s, w.session, w.stamps⟩) := Setting.run_contract asked
  have sent' : (assemble contract store stamp options patience).contract.submitProposal input
      ⟨s, t, (stamp w.stamps).2⟩ = (.ok reported, ⟨s', t, (stamp w.stamps).2⟩) :=
    Setting.run_contract sent
  exact ⟨_, submit_taken asked' made saves sent', left, rfl⟩

/-- If the contract answers but does not take the proposal, submitting gives up the key that it has saved. -/
theorem submit_refused (kept : store.KeptAs held) {input : ProposalInput} {w : Setting σ τ ρ}
    {pending : Option CorrelationKey} (here : held w.session m)
    (readable : Session.pendingKey m = .ok pending) {baseline : UInt64} {s s' : σ} {fault : Error}
    (asked : contract.lastProposalId w.contract = (.ok baseline, s))
    (sent : contract.submitProposal input s = (.error fault, s')) {key : CorrelationKey}
    (made : key = .forKind baseline input.kind (stamp w.stamps).1.1 (stamp w.stamps).1.2) :
    ∃ w', (assemble contract store stamp options patience).submit input w = (.error fault, w') ∧
      held w'.session (Session.consumed key (Session.saved key m)) ∧ w'.contract = s' := by
  obtain ⟨t, saves, left⟩ := kept.saveKey_of_readable here readable key
  -- the key that is given up is the one that was saved
  have own := Session.pendingKey_saved (CorrelationKey.Made.ofText?_toText ⟨_, _, _, _, made⟩) m
  obtain ⟨t', clears, left'⟩ := kept.invalidate_of_pending left own
  have asked' : (assemble contract store stamp options patience).contract.lastProposalId w =
      (.ok baseline, ⟨s, w.session, w.stamps⟩) := Setting.run_contract asked
  have sent' : (assemble contract store stamp options patience).contract.submitProposal input
      ⟨s, t, (stamp w.stamps).2⟩ = (.error fault, ⟨s', t, (stamp w.stamps).2⟩) :=
    Setting.run_contract sent
  exact ⟨_, submit_gives_up asked' made saves sent' clears, left', rfl⟩

/-- If the proposal of the pending key is found, resolving gives its ID and consumes the key. -/
theorem resolvePending_consumes (kept : store.KeptAs held) {w : Setting σ τ ρ}
    (here : held w.session m) {key : CorrelationKey} (pending : Session.pendingKey m = .ok (some key))
    {id : UInt64} (found : (contract.scan options key w.contract).1 = .ok id) :
    ∃ w', (assemble contract store stamp options patience).resolvePending w = (.ok id, w') ∧
      held w'.session (Session.resolved id (Session.consumed key m)) := by
  obtain ⟨t, loads, here⟩ := kept.loadKey_of_pending here pending
  -- the first scan succeeds, so no patience is needed
  have scan : (assemble contract store stamp options patience).contract.scan options key
      { w with session := t } =
        (.ok id, ⟨(contract.scan options key w.contract).2, t, w.stamps⟩) := by
    rw [assemble_scan, found]
  obtain ⟨t', clears, left⟩ := kept.invalidate_of_pending here pending
  obtain ⟨u, records, left⟩ := kept.recordResolved_of_held left id
  have resolve : (assemble contract store stamp options patience).resolve key
      { w with session := t } = _ := attempts_run_ok scan patience
  exact ⟨_, resolvePending_found loads resolve clears records, left⟩

/-- **A submission is found under the ID it was stored under.** The contract holds `n` proposals when it is
asked for the next ID, and `m` more by others when the submission arrives; more may follow at any time. If
none of those from the scan start on is described by the key, and the submission is in reach of the scan,
the workflow gives the ID `n + m`, remembers it, and leaves no pending key. -/
theorem submitAndResolve_finds_own {listed : σ → List Proposal} (appends : contract.Appends listed)
    (keeps : store.Keeps held) (takeFirst : options.ambiguity = .takeFirst) {input : ProposalInput}
    {w : Setting σ τ ρ} (numbered : Numbered (listed w.contract)) {n m : Nat}
    (before : (listed w.contract).length = n)
    (grown : (listed (contract.lastProposalId w.contract).2).length = n + m)
    {key : CorrelationKey}
    (made : key = .forKind (.ofNat n) input.kind (stamp w.stamps).1.1 (stamp w.stamps).1.2)
    (saves : (store.saveKey key w.session).1 = .ok ()) {start : UInt64}
    (starts : start = scanStart (.ofNat n) options.window)
    (apart : ∀ p ∈ listed (contract.lastProposalId w.contract).2, start.toNat ≤ p.id.toNat →
      ¬ key.Describes p)
    (reached : n + m < start.toNat + options.maxPages * options.pageSize.toNat)
    (fits : start.toNat + options.maxPages * options.pageSize.toNat < UInt64.size) :
    ∃ w', (assemble contract store stamp options patience).submitAndResolve input w =
        (.ok (.ofNat (n + m)), w') ∧
      (store.pending w'.session).1 = .ok none ∧
      (store.resolvedProposalId w'.session).1 = .ok (some (.ofNat (n + m))) := by
  obtain ⟨entries, pending, here, readable⟩ := keeps.of_saveKey saves
  -- what the contract does: the baseline is read, and the submission is appended
  obtain ⟨s, others, asked, _, numbered⟩ := appends.lastProposalId w.contract numbered (by omega)
  rw [before] at asked
  rw [asked] at grown apart
  dsimp only at grown apart
  obtain ⟨s', p, others', reported, sent, appended, numbered', kind, progress⟩ :=
    appends.submitProposal s input numbered (by omega)
  have own : (listed s')[n + m]? = some p := by
    rw [appended, ← grown, List.getElem?_append_right (Nat.le_refl _), Nat.sub_self]
    rfl
  have place : p.id = .ofNat (n + m) := by
    rw [← numbered' _ p own, UInt64.ofNat_toNat]
  have described : key.Describes p := by
    rw [made]
    exact CorrelationKey.describes_own kind progress _ _ _
  -- what submitting leaves: the key, which is read back
  have submission : ∃ w₁, (assemble contract store stamp options patience).submit input w =
        (.ok ⟨key, reported⟩, w₁) ∧
      held w₁.session (Session.saved key entries) ∧ w₁.contract = s' :=
    submit_saves keeps.kept here readable asked sent made
  obtain ⟨w₁, submitted, left, same⟩ := submission
  have plain : key.fields.Plain := by
    rw [made]
    exact ProposalKind.plain_fields input.kind
  have back := Session.pendingKey_saved (CorrelationKey.ofText?_toText plain) entries
  -- what the scan finds: nothing described by the key stands before the submission
  have found : (contract.scan options key w₁.contract).1 = .ok (.ofNat (n + m)) := by
    have baseline : key.baseline = .ofNat n := by rw [made]; rfl
    rw [same, GovernanceContract.scan, baseline, ← starts, ← place]
    refine GovernanceContract.scanPages_finds appends takeFirst described start _ _ _ _ s' numbered'
      own ?_ reached ?_ fits
    · rw [starts, scanStart_toNat, UInt64.toNat_ofNat']
      have := Nat.mod_le n (2 ^ 64)
      omega
    · intro i q hq lower upper
      rw [appended, List.getElem?_append_left (by omega)] at hq
      have id := numbered i q hq
      exact apart q (List.mem_of_getElem? hq) (by omega)
  obtain ⟨w₂, resolved, left⟩ := resolvePending_consumes keeps.kept left back found
  refine ⟨w₂, ?_, ?_, ?_⟩
  · rw [submitAndResolve, run_bind_ok submitted, resolved]
  · obtain ⟨t, run, _⟩ := keeps.kept.pending w₂.session _ left
    rw [run, SessionStore.memory_pending, Session.pendingKey_resolved, Session.pendingKey_consumed]
  · obtain ⟨t, run, _⟩ := keeps.kept.getId SessionEntry.resolvedProposalId w₂.session _ left
    rw [SessionStore.resolvedProposalId, run, SessionStore.memory_getId, Session.idUnder_resolved]

/-- Someone else submits before and after us: our submission goes behind theirs, is found on the second page,
and the session in a file has no pending key left. -/
theorem submitAndResolve_finds_third :
    let others (ps : List Proposal) : List ProposalInput :=
      if ps.length < 4 then [⟨"theirs", .mintRoot 2⟩] else []
    let contract := GovernanceContract.ledger others
    let options : ScanOptions := ⟨1, 2, 5, 1000, 60, .takeFirst⟩
    let stamp : StateM Unit (Uuid × Timestamp) := pure (default, .epoch)
    let ps := [⟨"earlier", .mintRoot 1⟩].foldl GovernanceContract.record []
    ∃ w', (assemble contract SessionFile.store stamp options 0).submitAndResolve
        ⟨"ours", .mintRoot 7⟩ ⟨ps, .absent, ()⟩ = (.ok 2, w') ∧
      (SessionFile.store.pending w'.session).1 = .ok none ∧
      (SessionFile.store.resolvedProposalId w'.session).1 = .ok (some 2) := by
  intro others contract options stamp ps
  have numbered : Numbered ps := (GovernanceContract.foldl_record numbered_nil _).choose_spec.2
  have saves : (SessionFile.store.saveKey (.forKind 1 (.mintRoot 7) default .epoch) .absent).1 =
      .ok () := by
    obtain ⟨t, run, _⟩ := SessionFile.store_keptAs.saveKey (.forKind 1 (.mintRoot 7) default .epoch)
      .absent .empty rfl
    rw [run, SessionStore.memory_saveKey_ok (Session.pendingKey_none rfl)]
  refine submitAndResolve_finds_own (GovernanceContract.ledger_appends others)
    SessionFile.store_keeps rfl numbered (n := 1) (m := 1) rfl rfl rfl saves rfl ?_ (by decide)
    (by decide)
  have none : (contract.lastProposalId ps).2.all
      (fun p => !(CorrelationKey.forKind 1 (.mintRoot 7) default .epoch).accepts p) = true := by
    decide +kernel
  intro p hp _
  refine CorrelationKey.not_accepts_iff.1 ?_
  rw [← Bool.not_eq_true']
  exact List.all_eq_true.1 none p hp

end Workflow

end Governance
