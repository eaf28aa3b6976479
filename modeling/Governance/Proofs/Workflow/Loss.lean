import Governance.Proofs.Correlation.Kinds
import Governance.Proofs.Workflow.Exits
import Mathlib.Control.Monad.Basic

/-!
# What a failing store loses

A store may refuse a call: the call fails, and the entries are as they were (`SessionStore.MayRefuse`).
Resolving a pending key calls it up to five times. The key is read, its proposal is looked for, and if it is
found, the key is read again, its entry and the one that shows its field are removed, and the proposal is
remembered. There is one way out for each call that may be refused, and one for a search that fails
(`Workflow.ResolveExit`). Up to the removal of the key a refusal changes nothing. The two calls behind it come
too late: if one of them is refused, neither the key nor the proposal is in the session
(`Workflow.ResolveExit.traceable_iff`). Main statement: these are all the ways in which resolving ends, and
only the last two lose what was found (`Workflow.resolvePending_refused`).
-/

namespace Governance

variable {σ τ ρ α : Type} {held : τ → StringMap String → Prop}

/-! ## Stores that may refuse -/

/-- From a state in which entries are held an action does with them what another one does in memory, or it fails
and holds them as before. -/
def DoesOrRefuses (held : τ → StringMap String → Prop) (x : ExceptT Error (StateM τ) α)
    (y : ExceptT Error (StateM (StringMap String)) α) : Prop :=
  ∀ s m, held s m →
    (∃ t, x s = ((y m).1, t) ∧ held t (y m).2) ∨ ∃ e t, x s = (.error e, t) ∧ held t m

/-- A store that keeps its entries as the one in memory does, but may refuse any call. -/
structure SessionStore.MayRefuse (store : SessionStore (StateM τ))
    (held : τ → StringMap String → Prop) : Prop where
  get : ∀ name, DoesOrRefuses held (store.get name) (memory.get name)
  set : ∀ name value, DoesOrRefuses held (store.set name value) (memory.set name value)
  remove : ∀ name, DoesOrRefuses held (store.remove name) (memory.remove name)

namespace SessionStore

/-- An action in memory, behind something that counts the calls and may refuse any of them by its number. -/
def refusingCall (refusal : Nat → Option Error) (x : ExceptT Error (StateM (StringMap String)) α) :
    ExceptT Error (StateM (Nat × StringMap String)) α :=
  ExceptT.mk fun (calls, m) =>
    match refusal calls with
    | some e => (.error e, (calls + 1, m))
    | none => ((x m).1, (calls + 1, (x m).2))

/-- The store in memory, behind something that counts the calls and may refuse any of them by its number. -/
def refusing (refusal : Nat → Option Error) : SessionStore (StateM (Nat × StringMap String)) where
  get name := refusingCall refusal (memory.get name)
  set name value := refusingCall refusal (memory.set name value)
  remove name := refusingCall refusal (memory.remove name)

theorem refusingCall_doesOrRefuses (refusal : Nat → Option Error)
    (x : ExceptT Error (StateM (StringMap String)) α) :
    DoesOrRefuses (fun s m => s.2 = m) (refusingCall refusal x) x := by
  rintro ⟨calls, m⟩ _ rfl
  cases given : refusal calls with
  | some e =>
    refine .inr ⟨e, (calls + 1, m), ?_, rfl⟩
    simp only [refusingCall, ExceptT.mk, given]
  | none =>
    refine .inl ⟨(calls + 1, (x m).2), ?_, rfl⟩
    simp only [refusingCall, ExceptT.mk, given]

theorem refusing_mayRefuse (refusal : Nat → Option Error) :
    (refusing refusal).MayRefuse fun s m => s.2 = m where
  get _ := refusingCall_doesOrRefuses refusal _
  set _ _ := refusingCall_doesOrRefuses refusal _
  remove _ := refusingCall_doesOrRefuses refusal _

open Session

variable {store : SessionStore (StateM τ)} {s t u : τ} {m : StringMap String} {key : CorrelationKey}
  {e : Error}

/-! ## Operations, call by call -/

section

variable (unread : store.get SessionEntry.pendingCorrelation s = (.error e, t))

include unread

theorem pending_unread : store.pending s = (.error e, t) :=
  run_bind_error unread

theorem loadKey_unread : store.loadKey s = (.error e, t) :=
  run_bind_error (pending_unread unread)

theorem invalidate_unread (token : Uuid) : store.invalidate token s = (.error e, t) :=
  run_bind_error (pending_unread unread)

end

section

variable (pending : pendingKey m = .ok (some key))
  (read : store.get SessionEntry.pendingCorrelation s =
    (.ok (m.get? SessionEntry.pendingCorrelation), t))

include pending read

theorem invalidate_unremoved
    (removes : store.remove SessionEntry.pendingCorrelation t = (.error e, u)) :
    store.invalidate key.token s = (.error e, u) := by
  rw [invalidate_of_read pending read]
  exact run_bind_error removes

section

variable (removes : store.remove SessionEntry.pendingCorrelation t = (.ok (), u))

include removes

/-- A key that is shown nowhere is consumed by now. -/
theorem invalidate_of_removed (nowhere : key.expectedKind.sessionEntry? = none) :
    store.invalidate key.token s = (.ok true, u) := by
  rw [invalidate_of_read pending read, run_bind_ok removes, nowhere]
  rfl

theorem invalidate_unhidden {entry : String} (here : key.ShowsIn entry) {v : τ}
    (hides : store.remove entry u = (.error e, v)) :
    store.invalidate key.token s = (.error e, v) := by
  obtain ⟨path, place⟩ := here
  rw [invalidate_of_read pending read, run_bind_ok removes, place]
  exact run_bind_error hides

theorem invalidate_of_hidden {entry : String} (here : key.ShowsIn entry) {v : τ}
    (hides : store.remove entry u = (.ok (), v)) :
    store.invalidate key.token s = (.ok true, v) := by
  obtain ⟨path, place⟩ := here
  rw [invalidate_of_read pending read, run_bind_ok removes, place]
  exact run_bind_ok hides

end

end

/-! ## What is left by them -/

/-- There is a state in which the entries are held and the call fails. -/
def Refuses (held : τ → StringMap String → Prop) (m : StringMap String)
    (call : ExceptT Error (StateM τ) α) (e : Error) : Prop :=
  ∃ s t, held s m ∧ call s = (.error e, t)

namespace MayRefuse

variable (refuses : store.MayRefuse held) (here : held s m) (pending : pendingKey m = .ok (some key))

include refuses here pending

/-- The key is loaded, unless its entry cannot be read. -/
theorem loadKey_cases :
    (∃ t, store.loadKey s = (.ok key, t) ∧ held t m) ∨
    ∃ e t, store.loadKey s = (.error e, t) ∧ held t m ∧
      Refuses held m (store.get SessionEntry.pendingCorrelation) e := by
  rcases refuses.get SessionEntry.pendingCorrelation s m here with
    ⟨t, read, left⟩ | ⟨e, t, unread, left⟩
  · exact .inl ⟨t, loadKey_of_read pending read, left⟩
  · exact .inr ⟨e, t, loadKey_unread unread, left, s, t, here, unread⟩

/-- The key is consumed, unless its entry cannot be read or removed, or it is shown somewhere and that entry
cannot be removed. In the last case its own entry is gone. -/
theorem invalidate_cases :
    (∃ t, store.invalidate key.token s = (.ok true, t) ∧ held t (consumed key m)) ∨
    (∃ e t, store.invalidate key.token s = (.error e, t) ∧ held t m ∧
      (Refuses held m (store.get SessionEntry.pendingCorrelation) e ∨
        Refuses held m (store.remove SessionEntry.pendingCorrelation) e)) ∨
    ∃ e t entry, store.invalidate key.token s = (.error e, t) ∧
      held t (m.erase SessionEntry.pendingCorrelation) ∧ key.ShowsIn entry ∧
      Refuses held (m.erase SessionEntry.pendingCorrelation) (store.remove entry) e := by
  rcases refuses.get SessionEntry.pendingCorrelation s m here with
    ⟨t, read, left⟩ | ⟨e, t, unread, left⟩
  · rcases refuses.remove SessionEntry.pendingCorrelation t m left with
      ⟨u, removes, without⟩ | ⟨e, u, unremoved, left'⟩
    · cases place : key.expectedKind.sessionEntry? with
      | none =>
        refine .inl ⟨u, invalidate_of_removed pending read removes place, ?_⟩
        rw [consumed, place]
        exact without
      | some shown =>
        obtain ⟨entry, path⟩ := shown
        rcases refuses.remove entry u _ without with ⟨v, hides, left'⟩ | ⟨e, v, unhidden, left'⟩
        · refine .inl ⟨v, invalidate_of_hidden pending read removes ⟨path, place⟩ hides, ?_⟩
          rw [consumed, place]
          exact left'
        · exact .inr (.inr ⟨e, v, entry,
            invalidate_unhidden pending read removes ⟨path, place⟩ unhidden, left', ⟨path, place⟩,
            u, v, without, unhidden⟩)
    · exact .inr (.inl ⟨e, u, invalidate_unremoved pending read unremoved, left',
        .inr ⟨t, u, left, unremoved⟩⟩)
  · exact .inr (.inl ⟨e, t, invalidate_unread unread key.token, left, .inl ⟨s, t, here, unread⟩⟩)

end MayRefuse

end SessionStore

/-! ## Resolving -/

namespace Workflow

open Session SessionStore

/-- How resolving a pending key ends, with what outcome and what entries, if `found` is what the search comes
to and `m` are the entries before. -/
inductive ResolveExit (store : SessionStore (StateM τ)) (held : τ → StringMap String → Prop)
    (key : CorrelationKey) (found : Except Error UInt64) (m : StringMap String) :
    Except Error UInt64 → StringMap String → Prop
  /-- The key cannot be read, be it to load or to consume it. -/
  | unread {e : Error} : Refuses held m (store.get SessionEntry.pendingCorrelation) e →
    ResolveExit store held key found m (.error e) m
  /-- The proposal is not found. -/
  | unfound {e : Error} : found = .error e → ResolveExit store held key found m (.error e) m
  /-- The key cannot be removed. -/
  | unremoved {id : UInt64} {e : Error} : found = .ok id →
    Refuses held m (store.remove SessionEntry.pendingCorrelation) e →
    ResolveExit store held key found m (.error e) m
  /-- The key is removed, but what shows its field cannot be. -/
  | unhidden {id : UInt64} {entry : String} {e : Error} : found = .ok id → key.ShowsIn entry →
    Refuses held (m.erase SessionEntry.pendingCorrelation) (store.remove entry) e →
    ResolveExit store held key found m (.error e) (m.erase SessionEntry.pendingCorrelation)
  /-- The key is consumed, but the proposal cannot be remembered. -/
  | unrecorded {id : UInt64} {e : Error} : found = .ok id →
    Refuses held (consumed key m) (store.set SessionEntry.resolvedProposalId (idText id)) e →
    ResolveExit store held key found m (.error e) (consumed key m)
  /-- The key is consumed and the proposal remembered. -/
  | done {id : UInt64} : found = .ok id →
    ResolveExit store held key found m (.ok id) (resolved id (consumed key m))

/-- The key is still the pending one, or the proposal that was found is remembered. -/
def Traceable (key : CorrelationKey) (found : Except Error UInt64) (m : StringMap String) : Prop :=
  pendingKey m = .ok (some key) ∨
    ∃ id, found = .ok id ∧ idUnder SessionEntry.resolvedProposalId m = .ok (some id)

variable {contract : GovernanceContract (StateM σ)} {store : SessionStore (StateM τ)}
  {stamp : StateM ρ (Uuid × Timestamp)} {options : ScanOptions} {patience : Nat}
  {key : CorrelationKey} {found : Except Error UInt64} {m n : StringMap String} {e : Error}

/-- Entries from which the key was removed have a trace of what was found only if it was remembered before. -/
theorem traceable_of_removed (pending : pendingKey m = .ok (some key)) (removed : pendingKey n = .ok none)
    (others : n.get? SessionEntry.resolvedProposalId = m.get? SessionEntry.resolvedProposalId) :
    Traceable key found n ↔ n = m ∨
      ∃ id, found = .ok id ∧ idUnder SessionEntry.resolvedProposalId m = .ok (some id) := by
  have changed : n ≠ m := by
    rintro rfl
    rw [pending] at removed
    cases removed
  have same : idUnder SessionEntry.resolvedProposalId n = idUnder SessionEntry.resolvedProposalId m := by
    rw [idUnder, others, idUnder]
  have notPending : (.ok none : Except Error (Option CorrelationKey)) ≠ .ok (some key) := by
    intro same
    cases same
  rw [Traceable, removed, same, or_iff_right changed, or_iff_right notPending]

/-- After an error what was found is lost if the entries have changed, unless it was remembered before. -/
theorem ResolveExit.traceable_iff (exit : ResolveExit store held key found m (.error e) n)
    (pending : pendingKey m = .ok (some key)) :
    Traceable key found n ↔ n = m ∨
      ∃ id, found = .ok id ∧ idUnder SessionEntry.resolvedProposalId m = .ok (some id) := by
  cases exit with
  | unread _ => exact iff_of_true (.inl pending) (.inl rfl)
  | unfound _ => exact iff_of_true (.inl pending) (.inl rfl)
  | unremoved _ _ => exact iff_of_true (.inl pending) (.inl rfl)
  | unhidden _ here _ =>
    refine traceable_of_removed pending (pendingKey_none ?_) ?_
    · rw [StringMap.get?_erase, if_pos rfl]
    · rw [StringMap.get?_erase, if_neg (by decide)]
  | unrecorded _ _ =>
    exact traceable_of_removed pending (pendingKey_consumed key m)
      (get?_consumed_other (by decide) (fun here => here.ne.2.2 rfl) m)

/-- **What resolving loses when the store fails.** The store may refuse any of its calls, the contract may
answer anything, and a key is pending. Then resolving ends in one of the ways of `ResolveExit`. If it ends
with an error, the key is still pending, or the proposal that was found is remembered, precisely if the
entries are as they were or the proposal had been remembered before. So it is lost when one of the two calls
is refused that follow the removal of the key. -/
theorem resolvePending_refused (refuses : store.MayRefuse held) (contract : GovernanceContract (StateM σ))
    (stamp : StateM ρ (Uuid × Timestamp)) (options : ScanOptions) (patience : Nat) (s : σ) {t : τ} (r : ρ)
    (here : held t m) (pending : pendingKey m = .ok (some key)) :
    let found := (contract.resolve options patience key s).1
    ∃ outcome w n,
      (assemble contract store stamp options patience).resolvePending ⟨s, t, r⟩ = (outcome, w) ∧
      held w.session n ∧ ResolveExit store held key found m outcome n ∧
      ∀ e, outcome = .error e →
        (Traceable key found n ↔ n = m ∨
          ∃ id, found = .ok id ∧ idUnder SessionEntry.resolvedProposalId m = .ok (some id)) := by
  intro found
  -- the last part follows from how it ended
  suffices ends : ∃ outcome w n,
      (assemble contract store stamp options patience).resolvePending ⟨s, t, r⟩ = (outcome, w) ∧
      held w.session n ∧ ResolveExit store held key found m outcome n by
    obtain ⟨outcome, w, n, run, left, exit⟩ := ends
    refine ⟨outcome, w, n, run, left, exit, ?_⟩
    rintro e rfl
    exact exit.traceable_iff pending
  rcases refuses.loadKey_cases here pending with ⟨t₁, loads, here₁⟩ | ⟨e, t₁, unloaded, here₁, why⟩
  · rcases resolves : contract.resolve options patience key s with ⟨outcome, s₁⟩
    have resolves' : (assemble contract store stamp options patience).contract.resolve options
        patience key ⟨s, t₁, r⟩ = (outcome, ⟨s₁, t₁, r⟩) := by
      rw [assemble_resolve, resolves]
    have comes : found = outcome := congrArg Prod.fst resolves
    cases outcome with
    | error e => exact ⟨_, _, m, resolvePending_unfound loads resolves', here₁, .unfound comes⟩
    | ok id =>
      rcases refuses.invalidate_cases here₁ pending with ⟨t₂, clears, here₂⟩ |
        ⟨e, t₂, uncleared, here₂, why | why⟩ | ⟨e, t₂, entry, uncleared, here₂, shown, why⟩
      · rcases refuses.set SessionEntry.resolvedProposalId (idText id) t₂ _ here₂ with
          ⟨t₃, records, here₃⟩ | ⟨e, t₃, unrecorded, here₃⟩
        · exact ⟨_, _, _, resolvePending_found loads resolves' clears records, here₃, .done comes⟩
        · exact ⟨_, _, _, resolvePending_unrecorded loads resolves' clears unrecorded, here₃,
            .unrecorded comes ⟨t₂, t₃, here₂, unrecorded⟩⟩
      · exact ⟨_, _, m, resolvePending_uncleared loads resolves' uncleared, here₂, .unread why⟩
      · exact ⟨_, _, m, resolvePending_uncleared loads resolves' uncleared, here₂,
          .unremoved comes why⟩
      · exact ⟨_, _, _, resolvePending_uncleared loads resolves' uncleared, here₂,
          .unhidden comes shown why⟩
  · exact ⟨_, _, m, resolvePending_unloaded unloaded, here₁, .unread why⟩

/-- The key cannot be removed. It is still the pending one. -/
theorem unremoved_key_is_pending :
    let full := Error.session (.stated "no space left")
    let store := SessionStore.refusing fun call => if call = 2 then some full else none
    let contract := GovernanceContract.ledger fun _ => []
    let ps := GovernanceContract.record [] ⟨"", .mintRoot 7⟩
    let key := CorrelationKey.forKind 0 (.mintRoot 7) default .epoch
    let stamp : StateM Unit (Uuid × Timestamp) := pure (default, .epoch)
    ∃ w, (assemble contract store stamp .default 0).resolvePending ⟨ps, (0, saved key .empty), ()⟩ =
        (.error full, w) ∧
      Traceable key (.ok 0) w.session.2 := by
  intro full store contract ps key stamp
  have back : pendingKey (saved key .empty) = .ok (some key) :=
    pendingKey_saved (CorrelationKey.made_forKind _ _ _ _).ofText?_toText _
  have finds : contract.resolve .default 0 key ps = (.ok 0, ps) := Prod.ext (by decide +kernel) rfl
  have resolves : (assemble contract store stamp .default 0).contract.resolve .default 0 key
      ⟨ps, (1, saved key .empty), ()⟩ = (.ok 0, ⟨ps, (1, saved key .empty), ()⟩) := by
    rw [assemble_resolve, finds]
  have loads : store.loadKey (0, saved key .empty) = (.ok key, (1, saved key .empty)) :=
    loadKey_of_read back rfl
  have fails : store.invalidate key.token (1, saved key .empty) =
      (.error full, (3, saved key .empty)) :=
    invalidate_unremoved back rfl rfl
  have ends : (assemble contract store stamp .default 0).resolvePending
      ⟨ps, (0, saved key .empty), ()⟩ = (.error full, ⟨ps, (3, saved key .empty), ()⟩) :=
    resolvePending_uncleared loads resolves fails
  obtain ⟨outcome, w, n, run, rfl, -, traceable⟩ :=
    resolvePending_refused (SessionStore.refusing_mayRefuse _) contract stamp .default 0 ps ()
      (t := (0, saved key .empty)) rfl back
  rw [finds] at traceable
  obtain ⟨rfl, rfl⟩ := Prod.mk.inj (run.symm.trans ends)
  exact ⟨_, run, (traceable full rfl).2 (.inl rfl)⟩

/-- The proposal is found, but there is no space left to remember it, after the key was consumed. -/
theorem unrecorded_proposal_is_lost :
    let full := Error.session (.stated "no space left")
    let store := SessionStore.refusing fun call => if call = 4 then some full else none
    let contract := GovernanceContract.ledger fun _ => []
    let ps := GovernanceContract.record [] ⟨"", .mintRoot 7⟩
    let key := CorrelationKey.forKind 0 (.mintRoot 7) default .epoch
    let stamp : StateM Unit (Uuid × Timestamp) := pure (default, .epoch)
    store.MayRefuse (fun s m => s.2 = m) ∧ pendingKey (saved key .empty) = .ok (some key) ∧
      contract.resolve .default 0 key ps = (.ok 0, ps) ∧
      ∃ w, (assemble contract store stamp .default 0).resolvePending ⟨ps, (0, saved key .empty), ()⟩ =
          (.error full, w) ∧
        pendingKey w.session.2 = .ok none ∧
        idUnder SessionEntry.resolvedProposalId w.session.2 = .ok none := by
  intro full store contract ps key stamp
  have back : pendingKey (saved key .empty) = .ok (some key) :=
    pendingKey_saved (CorrelationKey.made_forKind _ _ _ _).ofText?_toText _
  have finds : contract.resolve .default 0 key ps = (.ok 0, ps) := Prod.ext (by decide +kernel) rfl
  have resolves : (assemble contract store stamp .default 0).contract.resolve .default 0 key
      ⟨ps, (1, saved key .empty), ()⟩ = (.ok 0, ⟨ps, (1, saved key .empty), ()⟩) := by
    rw [assemble_resolve, finds]
  -- calls 0 and 1 read the key, 2 and 3 remove it and what shows its field, and 4 is refused
  have loads : store.loadKey (0, saved key .empty) = (.ok key, (1, saved key .empty)) :=
    loadKey_of_read back rfl
  have clears : store.invalidate key.token (1, saved key .empty) =
      (.ok true, (4, consumed key (saved key .empty))) :=
    invalidate_of_hidden back rfl rfl ⟨"id", rfl⟩ rfl
  have fails : store.recordResolved 0 (4, consumed key (saved key .empty)) =
      (.error full, (5, consumed key (saved key .empty))) := rfl
  refine ⟨SessionStore.refusing_mayRefuse _, back, finds, _,
    resolvePending_unrecorded loads resolves clears fails, pendingKey_consumed key _, ?_⟩
  have nothing : (consumed key (saved key .empty)).get? SessionEntry.resolvedProposalId = none := by
    rw [get?_consumed_other (by decide) (fun here => here.ne.2.2 rfl),
      get?_saved_other (by decide) (by decide) (fun here => here.ne.2.2 rfl), StringMap.get?_empty]
  rw [idUnder, nothing]

end Workflow

end Governance
