import Governance.Proofs.Contract.Log
import Governance.Proofs.Correlation.Kinds
import Governance.Proofs.Session.Failures
import Governance.Proofs.Workflow.Exits

/-!
# What submitting does to a session

A submission ends at one of four places: the baseline cannot be read, the key cannot be saved, the contract does
not take the proposal, or it does. Here the calls of the contract are written down with the sessions that they
found (`GovernanceContract.watched`), so it is seen that nothing is sent before the key is saved. What the
session holds at each of the places is said entry by entry (`SessionStore.HasSaved`, `SessionStore.HasGivenUp`),
for every state of a store that is guarded. Main statement: `Workflow.submit_effect`, for the store in memory and
for the one in a file.
-/

namespace Governance

variable {σ τ ρ α : Type}

/-! ## Contracts that are watched -/

/-- A call of a contract, and the session that it found. -/
structure SeenCall (τ : Type) where
  call : ContractCall
  session : τ

/-- Carries out an action on the contract, and writes down what it answered and which session it found. -/
def seen (call : Except Error α → ContractCall) (action : ExceptT Error (StateM σ) α) :
    ExceptT Error (StateM (Setting (σ × List (SeenCall τ)) τ ρ)) α :=
  ExceptT.mk fun w =>
    let (answer, s) := action.run w.contract.1
    (answer, { w with contract := (s, w.contract.2 ++ [⟨call answer, w.session⟩]) })

/-- The same contract, with a log of the calls and of the sessions that they found. -/
def GovernanceContract.watched (contract : GovernanceContract (StateM σ)) :
    GovernanceContract (StateM (Setting (σ × List (SeenCall τ)) τ ρ)) where
  submitProposal input := seen (.submit input) (contract.submitProposal input)
  lastProposalId := seen .lastId contract.lastProposalId
  listProposals fromIndex limit :=
    seen (.list fromIndex limit) (contract.listProposals fromIndex limit)
  vote id action := seen (.vote id action) (contract.vote id action)

/-- A call that is watched has the answer it has alone. -/
theorem run_seen {call : Except Error α → ContractCall} {action : ExceptT Error (StateM σ) α}
    {w : Setting (σ × List (SeenCall τ)) τ ρ} {answer : Except Error α} {s : σ}
    (h : action w.contract.1 = (answer, s)) :
    seen call action w =
      (answer, { w with contract := (s, w.contract.2 ++ [⟨call answer, w.session⟩]) }) := by
  simp only [seen, ExceptT.mk, ExceptT.run, h]

/-! ## What the entries say -/

namespace SessionStore

/-- The key is the pending one, its baseline and its field are shown, and all other entries are as before. -/
structure HasSaved (store : SessionStore (StateM τ)) (key : CorrelationKey) (before after : τ) :
    Prop where
  pending : (store.pending after).1 = .ok (some key)
  baseline : (store.lastProposalId after).1 = .ok (some key.baseline)
  shown : ∀ entry path, key.expectedKind.sessionEntry? = some (entry, path) →
    (store.get entry after).1 = .ok ((key.fields.get? path).map Json.Value.shown)
  others : ∀ name, name ≠ SessionEntry.lastProposalId → name ≠ SessionEntry.pendingCorrelation →
    ¬ key.ShowsIn name → (store.get name after).1 = (store.get name before).1

/-- No key is pending, and nothing is shown for the key that was. Its baseline stays, and all other entries are as
before. -/
structure HasGivenUp (store : SessionStore (StateM τ)) (key : CorrelationKey) (before after : τ) :
    Prop where
  pending : (store.get SessionEntry.pendingCorrelation after).1 = .ok none
  baseline : (store.lastProposalId after).1 = .ok (some key.baseline)
  unshown : ∀ entry, key.ShowsIn entry → (store.get entry after).1 = .ok none
  others : ∀ name, name ≠ SessionEntry.lastProposalId → name ≠ SessionEntry.pendingCorrelation →
    ¬ key.ShowsIn name → (store.get name after).1 = (store.get name before).1

variable {store : SessionStore (StateM τ)} {held : τ → StringMap String → Prop} {s t : τ}
  {m : StringMap String} {key : CorrelationKey}

open Session

theorem KeptAs.hasSaved (kept : store.KeptAs held) (made : key.Made) (before : held s m)
    (after : held t (saved key m)) : store.HasSaved key s t where
  pending := by
    rw [kept.pending_of_held after]
    exact pendingKey_saved made.ofText?_toText m
  baseline := (kept.getId_of_held after _).trans (idUnder_saved key m)
  shown entry path place := by rw [kept.get_of_held after, get?_saved_shown place]
  others name last pending other := by
    rw [kept.get_of_held after, kept.get_of_held before, get?_saved_other last pending other]

theorem KeptAs.hasGivenUp (kept : store.KeptAs held) (before : held s m)
    (after : held t (consumed key (saved key m))) : store.HasGivenUp key s t where
  pending := by rw [kept.get_of_held after, get?_consumed_pending]
  baseline := by
    have apart : ¬ key.ShowsIn SessionEntry.lastProposalId := fun here => here.ne.1 rfl
    have last := get?_consumed_other (by decide) apart (saved key m)
    refine (kept.getId_of_held after _).trans ?_
    rw [idUnder, last]
    exact idUnder_saved key m
  unshown entry here := by rw [kept.get_of_held after, get?_consumed_shown here]
  others name last pending other := by
    rw [kept.get_of_held after, kept.get_of_held before, get?_consumed_other pending other,
      get?_saved_other last pending other]

/-- A key that was saved went into the entries that the state held. -/
theorem Keeps.saved_of_saveKey (keeps : store.Keeps held) (saves : (store.saveKey key s).1 = .ok ()) :
    ∃ m t, store.saveKey key s = (.ok (), t) ∧ held s m ∧ held t (saved key m) := by
  obtain ⟨m, pending, here, readable⟩ := keeps.of_saveKey saves
  obtain ⟨t, run, left⟩ := keeps.kept.saveKey_of_readable here readable key
  exact ⟨m, t, run, here, left⟩

end SessionStore

/-! ## Submitting -/

namespace Workflow

/-- What submitting comes to at each of the places where it may end, from a state of the contract and one of the
session. A baseline makes the key of the submission; what is left has the calls of the contract in its log, and
`next` is what resolving right afterwards comes to. -/
structure SubmitEffect (contract : GovernanceContract (StateM σ)) (store : SessionStore (StateM τ))
    (input : ProposalInput) (key : UInt64 → CorrelationKey) (s : σ) (t : τ)
    (outcome : Except Error PendingProposal) (w : Setting (σ × List (SeenCall τ)) τ ρ)
    (next : Except Error UInt64 × Setting (σ × List (SeenCall τ)) τ ρ) : Prop where
  /-- If the baseline cannot be read, nothing is sent and the session stays. -/
  unread : ∀ e, (contract.lastProposalId s).1 = .error e →
    outcome = .error e ∧ w.session = t ∧ w.contract.2 = [⟨.lastId (.error e), t⟩]
  /-- If the key cannot be saved, nothing is sent and the session stays. -/
  unsaved : ∀ baseline e, (contract.lastProposalId s).1 = .ok baseline →
    (store.saveKey (key baseline) t).1 = .error e →
    outcome = .error e ∧ w.session = t ∧ w.contract.2 = [⟨.lastId (.ok baseline), t⟩]
  /-- Otherwise the proposal is sent once, in a session in which the key is pending. -/
  sent : ∀ baseline, (contract.lastProposalId s).1 = .ok baseline →
    (store.saveKey (key baseline) t).1 = .ok () →
    ∃ found, store.HasSaved (key baseline) t found ∧
      w.contract.2 = [⟨.lastId (.ok baseline), t⟩,
        ⟨.submit input (contract.submitProposal input (contract.lastProposalId s).2).1, found⟩]
  /-- If the contract does not take it, that error is returned, the key is given up, and nothing can be resolved. -/
  refused : ∀ baseline e, (contract.lastProposalId s).1 = .ok baseline →
    (store.saveKey (key baseline) t).1 = .ok () →
    (contract.submitProposal input (contract.lastProposalId s).2).1 = .error e →
    outcome = .error e ∧ store.HasGivenUp (key baseline) t w.session ∧
      next = (.error .noPendingCorrelation, w)
  /-- If the contract takes it, the key is returned and stays pending. -/
  taken : ∀ baseline reported, (contract.lastProposalId s).1 = .ok baseline →
    (store.saveKey (key baseline) t).1 = .ok () →
    (contract.submitProposal input (contract.lastProposalId s).2).1 = .ok reported →
    outcome = .ok ⟨key baseline, reported⟩ ∧ store.HasSaved (key baseline) t w.session

section

variable {contract : GovernanceContract (StateM σ)} {store : SessionStore (StateM τ)}
  {stamp : StateM ρ (Uuid × Timestamp)} {options : ScanOptions} {patience : Nat}
  {held : τ → StringMap String → Prop}

/-- The watched contract tells the baseline in the session that is there. -/
theorem watched_lastProposalId {s : σ} {answer : Except Error UInt64}
    (read : (contract.lastProposalId s).1 = answer) (t : τ) (r : ρ) :
    contract.watched.lastProposalId ⟨(s, []), t, r⟩ =
      (answer, ⟨((contract.lastProposalId s).2, [⟨.lastId answer, t⟩]), t, r⟩) :=
  run_seen (Prod.ext read rfl)

theorem watched_submitProposal {s : σ} {input : ProposalInput} {answer : Except Error (Option UInt64)}
    (sends : (contract.submitProposal input s).1 = answer) (log : List (SeenCall τ)) (t : τ) (r : ρ) :
    contract.watched.submitProposal input ⟨(s, log), t, r⟩ =
      (answer, ⟨((contract.submitProposal input s).2, log ++ [⟨.submit input answer, t⟩]), t, r⟩) :=
  run_seen (Prod.ext sends rfl)

/-- A guarded store is left by submitting as is said for each place where it ends. -/
theorem submitEffect_of_guarded (guarded : store.Guarded held) (input : ProposalInput) (s : σ) (t : τ)
    (r : ρ) :
    SubmitEffect contract store input
      (fun baseline => .forKind baseline input.kind (stamp r).1.1 (stamp r).1.2) s t
      ((around contract.watched store stamp options patience).submit input ⟨(s, []), t, r⟩).1
      ((around contract.watched store stamp options patience).submit input ⟨(s, []), t, r⟩).2
      ((around contract.watched store stamp options patience).resolvePending
        ((around contract.watched store stamp options patience).submit input ⟨(s, []), t, r⟩).2) where
  unread e read := by
    rw [submit_unread (watched_lastProposalId read t r)]
    exact ⟨rfl, rfl, rfl⟩
  unsaved baseline e read saves := by
    rcases run : store.saveKey (.forKind baseline input.kind (stamp r).1.1 (stamp r).1.2) t with
      ⟨answer, t'⟩
    rw [run] at saves
    cases saves
    rw [submit_unsaved (watched_lastProposalId read t r) rfl run]
    exact ⟨rfl, guarded.clean_saveKey _ _ _ _ run, rfl⟩
  sent baseline read saves := by
    obtain ⟨m, t₁, run, before, after⟩ := guarded.saved_of_saveKey saves
    have made := CorrelationKey.made_forKind baseline input.kind (stamp r).1.1 (stamp r).1.2
    refine ⟨t₁, guarded.kept.hasSaved made before after, ?_⟩
    -- giving up the key asks the contract nothing, so the log ends with the submission either way
    cases sends : (contract.submitProposal input (contract.lastProposalId s).2).1 with
    | ok reported =>
      rw [submit_taken (watched_lastProposalId read t r) rfl run (watched_submitProposal sends _ _ _)]
      rfl
    | error e =>
      obtain ⟨t₂, clears, _⟩ :=
        guarded.kept.invalidate_of_pending after (Session.pendingKey_saved made.ofText?_toText m)
      rw [submit_gives_up (watched_lastProposalId read t r) rfl run
        (watched_submitProposal sends _ _ _) clears]
      rfl
  refused baseline e read saves sends := by
    obtain ⟨m, t₁, run, before, after⟩ := guarded.saved_of_saveKey saves
    have made := CorrelationKey.made_forKind baseline input.kind (stamp r).1.1 (stamp r).1.2
    -- the pending key is the one that was saved, so its token consumes it
    obtain ⟨t₂, clears, left⟩ :=
      guarded.kept.invalidate_of_pending after (Session.pendingKey_saved made.ofText?_toText m)
    have loads := guarded.loadKey_none left (Session.pendingKey_consumed _ _)
    rw [submit_gives_up (watched_lastProposalId read t r) rfl run
      (watched_submitProposal sends _ _ _) clears]
    exact ⟨rfl, guarded.kept.hasGivenUp before left, resolvePending_unloaded loads⟩
  taken baseline reported read saves sends := by
    obtain ⟨m, t₁, run, before, after⟩ := guarded.saved_of_saveKey saves
    have made := CorrelationKey.made_forKind baseline input.kind (stamp r).1.1 (stamp r).1.2
    rw [submit_taken (watched_lastProposalId read t r) rfl run (watched_submitProposal sends _ _ _)]
    exact ⟨rfl, guarded.kept.hasSaved made before after⟩

end

/-- **What submitting does to a session.** Whatever the contract answers, and whatever is in memory or stands at
the place of the file: if the baseline cannot be read, or the key cannot be saved, the session is as it was and
the proposal is never sent. It is sent only when the new key is the pending one already. If the contract does not
take it, its error is returned, no key is pending, nothing is shown for the new key, the baseline is the one that
was read, all other entries are as before, and resolving finds no key and asks the contract nothing. If the
contract takes it, the pending key is the one that is returned. Every key has the baseline that was read, and the
kind and the fields of the input. -/
theorem submit_effect (contract : GovernanceContract (StateM σ)) (stamp : StateM ρ (Uuid × Timestamp))
    (options : ScanOptions) (patience : Nat) (input : ProposalInput) (s : σ) (r : ρ) :
    let key (baseline : UInt64) :=
      CorrelationKey.forKind baseline input.kind (stamp r).1.1 (stamp r).1.2
    let inMemory := around contract.watched SessionStore.memory stamp options patience
    let inFile := around contract.watched SessionFile.store stamp options patience
    (∀ baseline, (key baseline).baseline = baseline ∧ (key baseline).expectedKind = input.kind.tag ∧
      (key baseline).fields = input.kind.fields) ∧
    (∀ entries,
      let (outcome, w) := inMemory.submit input ⟨(s, []), entries, r⟩
      SubmitEffect contract SessionStore.memory input key s entries outcome w
        (inMemory.resolvePending w)) ∧
    ∀ file,
      let (outcome, w) := inFile.submit input ⟨(s, []), file, r⟩
      SubmitEffect contract SessionFile.store input key s file outcome w (inFile.resolvePending w) := by
  intro key inMemory inFile
  refine ⟨fun baseline => ⟨rfl, rfl, rfl⟩, ?memory, ?file⟩
  case memory =>
    intro entries
    exact submitEffect_of_guarded SessionStore.memory_guarded input s entries r
  case file =>
    intro file
    exact submitEffect_of_guarded SessionFile.store_guarded input s file r

/-- A submission that is refused gives up its key in memory, and one that is taken leaves its key in a file that was not
there. -/
theorem submit_refused_and_taken :
    let contract : GovernanceContract (StateM Bool) := {
      submitProposal := fun _ takes => (if takes then .ok (some 5) else .error .network, takes)
      lastProposalId := fun takes => (.ok 5, takes)
      listProposals := fun _ _ takes => (.ok [], takes)
      vote := fun _ _ takes => (.error .network, takes) }
    let stamp : StateM Unit (Uuid × Timestamp) := pure (⟨1⟩, .epoch)
    let input : ProposalInput := ⟨"mint", .mintRoot 7⟩
    let key : CorrelationKey := .forKind 5 (.mintRoot 7) ⟨1⟩ .epoch
    let inMemory := around contract.watched SessionStore.memory stamp .default 0
    let inFile := around contract.watched SessionFile.store stamp .default 0
    (∃ w found, inMemory.submit input ⟨(false, []), .empty, ()⟩ = (.error .network, w) ∧
      SessionStore.memory.HasSaved key .empty found ∧
      w.contract.2 = [⟨.lastId (.ok 5), .empty⟩, ⟨.submit input (.error .network), found⟩] ∧
      SessionStore.memory.HasGivenUp key .empty w.session ∧
      inMemory.resolvePending w = (.error .noPendingCorrelation, w)) ∧
    ∃ w, inFile.submit input ⟨(true, []), .absent, ()⟩ = (.ok ⟨key, some 5⟩, w) ∧
      SessionFile.store.HasSaved key .absent w.session := by
  intro contract stamp input key inMemory inFile
  have empty : Session.pendingKey .empty = .ok none := Session.pendingKey_none rfl
  have read : ∀ takes, (contract.lastProposalId takes).1 = .ok 5 := fun _ => rfl
  have refuses : (contract.submitProposal input (contract.lastProposalId false).2).1 =
      .error .network := rfl
  have takes : (contract.submitProposal input (contract.lastProposalId true).2).1 =
      .ok (some 5) := rfl
  -- all that has to be computed is known, and the rest holds of any such contract
  clear_value contract
  constructor
  · have saves : (SessionStore.memory.saveKey key .empty).1 = .ok () := by
      rw [SessionStore.memory_saveKey_ok empty]
    have effect := (submit_effect contract stamp .default 0 input false ()).2.1 .empty
    rcases run : (around contract.watched SessionStore.memory stamp .default 0).submit input
      ⟨(false, []), .empty, ()⟩ with ⟨outcome, w⟩
    rw [run] at effect
    obtain ⟨found, saved, log⟩ := effect.sent 5 (read false) saves
    obtain ⟨rfl, givenUp, next⟩ := effect.refused 5 .network (read false) saves refuses
    rw [refuses] at log
    exact ⟨w, found, rfl, saved, log, givenUp, next⟩
  · have saves : (SessionFile.store.saveKey key .absent).1 = .ok () := by
      have absent : SessionFile.entriesOf .absent = .ok .empty := rfl
      obtain ⟨t, saves, _⟩ := SessionFile.store_keptAs.saveKey_of_readable absent empty key
      rw [saves]
    have effect := (submit_effect contract stamp .default 0 input true ()).2.2 .absent
    rcases run : (around contract.watched SessionFile.store stamp .default 0).submit input
      ⟨(true, []), .absent, ()⟩ with ⟨outcome, w⟩
    rw [run] at effect
    obtain ⟨rfl, saved⟩ := effect.taken 5 (some 5) (read true) saves takes
    exact ⟨w, rfl, saved⟩

end Workflow

end Governance
