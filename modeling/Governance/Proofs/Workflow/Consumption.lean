import Governance.Proofs.Contract.Listing
import Governance.Proofs.Correlation.Kinds
import Governance.Proofs.Session.Failures
import Governance.Proofs.Workflow.Exits

/-!
# What resolving does to a session

Resolving loads the pending key, looks for its proposal as long as the patience lasts, and only then writes: the
key is consumed and the proposal remembered. So whatever makes it fail, be it the session, the contract, or what
the contract lists, comes before the first write, and the key can be resolved later. Nothing that follows the
search can fail any more, since the key could be loaded. Here this is said for every state of a store that is
guarded, entry by entry (`SessionStore.HasConsumed`). Main statement: `Workflow.resolvePending_effect`, for the
store in memory and for the one in a file.
-/

namespace Governance

variable {σ τ ρ : Type} {store : SessionStore (StateM τ)} {held : τ → StringMap String → Prop}

/-! ## What the entries say -/

namespace SessionStore

/-- No key is pending, nothing is shown for the key that was, the proposal is the one found last, and all other
entries are as before. -/
structure HasConsumed (store : SessionStore (StateM τ)) (key : CorrelationKey) (id : UInt64)
    (before after : τ) : Prop where
  pending : (store.get SessionEntry.pendingCorrelation after).1 = .ok none
  unshown : ∀ entry, key.ShowsIn entry → (store.get entry after).1 = .ok none
  resolved : (store.resolvedProposalId after).1 = .ok (some id)
  others : ∀ name, name ≠ SessionEntry.pendingCorrelation → name ≠ SessionEntry.resolvedProposalId →
    ¬ key.ShowsIn name → (store.get name after).1 = (store.get name before).1

open Session

theorem KeptAs.hasConsumed (kept : store.KeptAs held) {s t : τ} {m : StringMap String}
    {key : CorrelationKey} {id : UInt64} (before : held s m) (after : held t (resolved id (consumed key m))) :
    store.HasConsumed key id s t where
  pending := by
    rw [kept.get_of_held after, get?_resolved_other (by decide), get?_consumed_pending]
  unshown entry here := by
    rw [kept.get_of_held after, get?_resolved_other here.ne.2.2, get?_consumed_shown here]
  resolved := (kept.getId_of_held after _).trans (idUnder_resolved id _)
  others name pending resolved other := by
    rw [kept.get_of_held after, kept.get_of_held before, get?_resolved_other resolved,
      get?_consumed_other pending other]

end SessionStore

/-! ## Resolving -/

namespace Workflow

/-- What resolving comes to, from a state of the contract and one of the session. `after` is the session that is
left, and `again` is what resolving once more comes to, with the contract and the source of stamps in any
states. -/
structure ResolveEffect (contract : GovernanceContract (StateM σ)) (store : SessionStore (StateM τ))
    (options : ScanOptions) (patience : Nat) (s : σ) (t : τ) (outcome : Except Error UInt64) (after : τ)
    (again : σ → ρ → Except Error UInt64 × Setting σ τ ρ) : Prop where
  /-- The key is loaded, and its proposal is looked for; nothing else decides. -/
  result : outcome = (store.loadKey t).1.bind fun key => (contract.resolve options patience key s).1
  /-- If that fails, the session is as it was. -/
  failed : ∀ e, outcome = .error e → after = t
  /-- If the proposal is found, its key is consumed, and no other can be resolved. -/
  found : ∀ id, outcome = .ok id →
    ∃ key, (store.loadKey t).1 = .ok key ∧ (contract.resolve options patience key s).1 = .ok id ∧
      store.HasConsumed key id t after ∧
      ∀ s' r', again s' r' = (.error .noPendingCorrelation, ⟨s', after, r'⟩)

variable {contract : GovernanceContract (StateM σ)} {stamp : StateM ρ (Uuid × Timestamp)}
  {options : ScanOptions} {patience : Nat}

/-- A guarded store is left by resolving as is said. -/
theorem resolveEffect_of_guarded (guarded : store.Guarded held) (s : σ) (t : τ) (r : ρ) :
    ResolveEffect contract store options patience s t
      ((assemble contract store stamp options patience).resolvePending ⟨s, t, r⟩).1
      ((assemble contract store stamp options patience).resolvePending ⟨s, t, r⟩).2.session
      (fun s' r' => (assemble contract store stamp options patience).resolvePending
        ⟨s', ((assemble contract store stamp options patience).resolvePending ⟨s, t, r⟩).2.session,
          r'⟩) := by
  rcases loads : store.loadKey t with ⟨loaded, t'⟩
  obtain rfl : t' = t := guarded.looks_loadKey.stays loads
  cases loaded with
  | error e =>
    have run : (assemble contract store stamp options patience).resolvePending ⟨s, t', r⟩ =
        (.error e, ⟨s, t', r⟩) := resolvePending_unloaded loads
    rw [run]
    constructor
    · rw [loads]
      rfl
    · intro _ _
      rfl
    · intro id none
      cases none
  | ok key =>
    rcases resolves : contract.resolve options patience key s with ⟨outcome, s₁⟩
    have resolves' : (assemble contract store stamp options patience).contract.resolve options
        patience key ⟨s, t', r⟩ = (outcome, ⟨s₁, t', r⟩) := by
      rw [assemble_resolve, resolves]
    cases outcome with
    | error e =>
      have run : (assemble contract store stamp options patience).resolvePending ⟨s, t', r⟩ =
          (.error e, ⟨s₁, t', r⟩) := resolvePending_unfound loads resolves'
      rw [run]
      constructor
      · rw [loads]
        exact (congrArg Prod.fst resolves).symm
      · intro _ _
        rfl
      · intro id none
        cases none
    | ok id =>
      -- the key could be loaded, so there are entries, and they can be written
      obtain ⟨m, here, pending⟩ := guarded.pendingKey_of_loadKey (by rw [loads])
      obtain ⟨t₁, clears, left⟩ := guarded.kept.invalidate_of_pending here pending
      obtain ⟨t₂, records, left⟩ := guarded.kept.recordResolved_of_held left id
      have run : (assemble contract store stamp options patience).resolvePending ⟨s, t', r⟩ =
          (.ok id, ⟨s₁, t₂, r⟩) := resolvePending_found loads resolves' clears records
      have none : Session.pendingKey (Session.resolved id (Session.consumed key m)) = .ok none := by
        rw [Session.pendingKey_resolved, Session.pendingKey_consumed]
      have unloaded : store.loadKey t₂ = (.error .noPendingCorrelation, t₂) :=
        guarded.loadKey_none left none
      rw [run]
      constructor
      · rw [loads]
        exact (congrArg Prod.fst resolves).symm
      · intro e fails
        cases fails
      · intro id' same
        cases same
        exact ⟨key, by rw [loads], by rw [resolves], guarded.kept.hasConsumed here left,
          fun s' r' => resolvePending_unloaded unloaded⟩

/-- **What resolving does to a session.** Whatever the contract answers, however often it is asked, and whatever
is in memory or stands at the place of the file: resolving gives an ID only if a key is pending and looking for
its proposal gives that ID. Then no key is pending, nothing is shown for the key that was, the ID is the one found
last, all other entries are as before, and resolving once more finds no key. If it fails, for lack of a key that
can be read, for lack of time, or for any error of the contract or of the search, the session is as it was. -/
theorem resolvePending_effect (contract : GovernanceContract (StateM σ))
    (stamp : StateM ρ (Uuid × Timestamp)) (options : ScanOptions) (patience : Nat) (s : σ) (r : ρ) :
    let inMemory := assemble contract SessionStore.memory stamp options patience
    let inFile := assemble contract SessionFile.store stamp options patience
    (∀ entries,
      let (outcome, w) := inMemory.resolvePending ⟨s, entries, r⟩
      ResolveEffect contract SessionStore.memory options patience s entries outcome w.session
        fun s' r' => inMemory.resolvePending ⟨s', w.session, r'⟩) ∧
    ∀ file,
      let (outcome, w) := inFile.resolvePending ⟨s, file, r⟩
      ResolveEffect contract SessionFile.store options patience s file outcome w.session
        fun s' r' => inFile.resolvePending ⟨s', w.session, r'⟩ := by
  intro inMemory inFile
  constructor
  · intro entries
    exact resolveEffect_of_guarded SessionStore.memory_guarded s entries r
  · intro file
    exact resolveEffect_of_guarded SessionFile.store_guarded s file r

/-- A key is pending in memory, and the contract lists its proposal: the proposal is found, the key is consumed, and it
cannot be resolved again. -/
theorem resolvePending_found_and_consumed :
    let contract := GovernanceContract.ledger fun _ => []
    let stamp : StateM Unit (Uuid × Timestamp) := pure (default, .epoch)
    let ps := [⟨"theirs", .mintRoot 1⟩, ⟨"ours", .mintRoot 7⟩].foldl GovernanceContract.record []
    let key : CorrelationKey := .forKind 1 (.mintRoot 7) ⟨1⟩ .epoch
    let workflow := assemble contract SessionStore.memory stamp .default 0
    let entries := Session.saved key .empty
    ∃ w, workflow.resolvePending ⟨ps, entries, ()⟩ = (.ok 1, w) ∧
      (SessionStore.memory.loadKey entries).1 = .ok key ∧
      SessionStore.memory.HasConsumed key 1 entries w.session ∧
      workflow.resolvePending ⟨ps, w.session, ()⟩ =
        (.error .noPendingCorrelation, ⟨ps, w.session, ()⟩) := by
  intro contract stamp ps key workflow entries
  have loads : (SessionStore.memory.loadKey entries).1 = .ok key := by
    rw [SessionStore.memory_loadKey_some
      (Session.pendingKey_saved (CorrelationKey.made_forKind _ _ _ _).ofText?_toText _)]
  have resolves : (contract.resolve .default 0 key ps).1 = .ok 1 := by decide +kernel
  -- all that has to be computed is known, and the rest holds of any such contract
  clear_value contract ps entries
  have effect := (resolvePending_effect contract stamp .default 0 ps ()).1 entries
  rcases run : (assemble contract SessionStore.memory stamp .default 0).resolvePending
    ⟨ps, entries, ()⟩ with ⟨outcome, w⟩
  rw [run] at effect
  obtain rfl : outcome = .ok 1 := by
    rw [effect.result, loads]
    exact resolves
  obtain ⟨key', loads', _, consumed, again⟩ := effect.found 1 rfl
  obtain rfl : key = key' := Except.ok.inj (loads.symm.trans loads')
  exact ⟨w, rfl, loads, consumed, again ps ()⟩

end Workflow

end Governance
