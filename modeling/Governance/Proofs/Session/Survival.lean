import Governance.Proofs.Correlation.Kinds
import Governance.Proofs.Session.Refinement

/-!
# A pending key survives

Between saving a key and consuming it a program may do other things with the session, end, and start again. A
session holds a key if the key is the pending one and its baseline is the last one (`Session.Holds`). Saving
a key makes the session hold it, provided its text is read back, and every operation that spares the two
entries leaves it held (`Session.Holds.perform`). So the key and the baseline can be read at any later
time until the key is consumed or replaced. Main statement: `saved_key_survives`, for the store in memory and
for the one in a file, which may be opened again at any point.
-/

namespace Governance

variable {τ : Type} {held : τ → StringMap String → Prop} {key : CorrelationKey}
  {m n : StringMap String}

/-! ## Entries that hold a key -/

namespace Session

/-- The key is pending, and its baseline is the one of the last submission. -/
structure Holds (key : CorrelationKey) (m : StringMap String) : Prop where
  pending : pendingKey m = .ok (some key)
  baseline : idUnder SessionEntry.lastProposalId m = .ok (some key.baseline)

/-- A key that was saved is held, if its text is read back. -/
theorem holds_saved (back : CorrelationKey.ofText? key.toText = some key) (m : StringMap String) :
    Holds key (saved key m) where
  pending := pendingKey_saved back m
  baseline := idUnder_saved key m

namespace Holds

/-- Only two entries matter. -/
theorem congr (h : Holds key m)
    (pending : n.get? SessionEntry.pendingCorrelation = m.get? SessionEntry.pendingCorrelation)
    (last : n.get? SessionEntry.lastProposalId = m.get? SessionEntry.lastProposalId) :
    Holds key n where
  pending := by
    rw [pendingKey, pending]
    exact h.pending
  baseline := by
    rw [idUnder, last]
    exact h.baseline

theorem insert (h : Holds key m) {name : String} (pending : name ≠ SessionEntry.pendingCorrelation)
    (last : name ≠ SessionEntry.lastProposalId) (value : String) :
    Holds key (m.insert name value) := by
  refine h.congr ?_ ?_
  · rw [StringMap.get?_insert, if_neg pending.symm]
  · rw [StringMap.get?_insert, if_neg last.symm]

theorem erase (h : Holds key m) {name : String} (pending : name ≠ SessionEntry.pendingCorrelation)
    (last : name ≠ SessionEntry.lastProposalId) : Holds key (m.erase name) := by
  refine h.congr ?_ ?_
  · rw [StringMap.get?_erase, if_neg pending.symm]
  · rw [StringMap.get?_erase, if_neg last.symm]

end Holds

end Session

/-! ## Operations that spare a key -/

/-- Operations that neither consume nor replace a key: single entries may be changed other than the two that
hold it, and other keys may be given up. -/
def SessionOp.Spares (key : CorrelationKey) : SessionOp → Prop
  | set name _ | remove name =>
    name ≠ SessionEntry.pendingCorrelation ∧ name ≠ SessionEntry.lastProposalId
  | saveKey _ => False
  | invalidate token => key.token ≠ token
  | _ => True

/-- Opening the store again spares every key. -/
def SessionStep.Spares (key : CorrelationKey) : SessionStep → Prop
  | run op => op.Spares key
  | reopen => True

namespace Session

/-- What an action leaves does not depend on what is made of its answer. -/
theorem left_by_reply {α : Type} {x : ExceptT Error (StateM (StringMap String)) α}
    {f : α → SessionReply} {outcome : Except Error α} (h : x m = (outcome, n)) :
    ((do return f (← x) : ExceptT Error (StateM (StringMap String)) SessionReply) m).2 = n := by
  cases outcome with
  | ok a => rw [run_bind_ok h, run_pure]
  | error e => rw [run_bind_error h]

/-- The token of another key consumes nothing. -/
theorem memory_invalidate_other (h : pendingKey m = .ok (some key)) {token : Uuid}
    (other : key.token ≠ token) : SessionStore.memory.invalidate token m = (.ok false, m) := by
  rw [SessionStore.invalidate,
    run_bind_ok (a := some key) (by rw [SessionStore.memory_pending, h])]
  dsimp only
  rw [if_neg other]
  rfl

/-- **What spares a key leaves it held.** -/
theorem Holds.perform (h : Holds key m) {op : SessionOp} (spares : op.Spares key) :
    Holds key (op.perform SessionStore.memory m).2 := by
  cases op with
  | get name => exact h
  | set name value => exact h.insert spares.1 spares.2 value
  | remove name => exact h.erase spares.1 spares.2
  | saveKey other => exact spares.elim
  | pending =>
    rw [SessionOp.perform, left_by_reply SessionStore.memory_pending]
    exact h
  | loadKey =>
    rw [SessionOp.perform, left_by_reply (SessionStore.memory_loadKey_some h.pending)]
    exact h
  | invalidate token =>
    rw [SessionOp.perform, left_by_reply (memory_invalidate_other h.pending spares)]
    exact h
  | recordResolved id => exact h.insert (by decide) (by decide) _
  | lastProposalId =>
    rw [SessionOp.perform, SessionStore.lastProposalId, left_by_reply (SessionStore.memory_getId _)]
    exact h
  | resolvedProposalId =>
    rw [SessionOp.perform, SessionStore.resolvedProposalId,
      left_by_reply (SessionStore.memory_getId _)]
    exact h

end Session

/-! ## Stores that remember a key -/

namespace SessionStore

variable {store : SessionStore (StateM τ)} {reopen : τ → τ} {s : τ}

/-- The store answers with the key and its baseline. -/
structure Remembers (store : SessionStore (StateM τ)) (key : CorrelationKey) (s : τ) : Prop where
  loadKey : (store.loadKey s).1 = .ok key
  lastProposalId : (store.lastProposalId s).1 = .ok (some key.baseline)

theorem KeptAs.remembers (kept : store.KeptAs held) (here : held s m) (h : Session.Holds key m) :
    store.Remembers key s where
  loadKey := by
    obtain ⟨t, run, _⟩ := kept.loadKey s m here
    rw [run, memory_loadKey_some h.pending]
  lastProposalId := (kept.getId_of_held here _).trans h.baseline

/-- While all steps spare the key, the entries hold it after each of them. -/
theorem KeptAs.holds_along (kept : store.KeptAs held)
    (again : ∀ s m, held s m → held (reopen s) m) {steps : List SessionStep}
    (spared : ∀ step ∈ steps, step.Spares key) (here : held s m) (h : Session.Holds key m) :
    ∀ r ∈ store.course reopen steps s, ∃ n, held r.2 n ∧ Session.Holds key n := by
  -- what carries the induction is that the state stands for entries that hold the key
  induction steps generalizing s m with
  | nil => exact fun _ hr => absurd hr List.not_mem_nil
  | cons step steps ih =>
    have rest : ∀ step ∈ steps, step.Spares key :=
      fun step hs => spared step (List.mem_cons_of_mem _ hs)
    have first : step.Spares key := spared step List.mem_cons_self
    intro r hr
    cases step with
    | run op =>
      obtain ⟨t, run, left⟩ := kept.perform op s m here
      have holds : Session.Holds key (op.perform memory m).2 := h.perform first
      rw [course, run] at hr
      rcases List.mem_cons.1 hr with rfl | later
      · exact ⟨_, left, holds⟩
      · exact ih rest left holds r later
    | reopen =>
      rw [course] at hr
      rcases List.mem_cons.1 hr with rfl | later
      · exact ⟨m, again s m here, h⟩
      · exact ih rest (again s m here) h r later

/-- After a key was saved the store remembers it, as long as the steps that follow spare it. -/
theorem Keeps.remembers_saved (keeps : store.Keeps held)
    (again : ∀ s m, held s m → held (reopen s) m) (plain : key.fields.Plain)
    (saves : (store.saveKey key s).1 = .ok ()) {steps : List SessionStep}
    (spared : ∀ step ∈ steps, step.Spares key) :
    ∀ r ∈ store.course reopen (.run (.saveKey key) :: steps) s, store.Remembers key r.2 := by
  obtain ⟨entries, pending, here, readable⟩ := keeps.of_saveKey saves
  have holds : Session.Holds key (Session.saved key entries) :=
    Session.holds_saved (CorrelationKey.ofText?_toText plain) entries
  obtain ⟨t, run, left⟩ := keeps.kept.perform (.saveKey key) s entries here
  have saved : ((SessionOp.saveKey key).perform memory entries).2 = Session.saved key entries := by
    rw [SessionOp.perform, run_bind_ok (memory_saveKey_ok readable)]
    rfl
  rw [saved] at left
  intro r hr
  rw [course, run] at hr
  rcases List.mem_cons.1 hr with rfl | later
  · exact keeps.kept.remembers left holds
  · obtain ⟨n, left, holds⟩ := keeps.kept.holds_along again spared left holds r later
    exact keeps.kept.remembers left holds

end SessionStore

/-- **A key that was saved is there until it is consumed or replaced.** Every key whose fields are plain, among
them every key that is made for a submission, is loaded exactly as it was saved, and its baseline is the one of
the last submission: right after saving it succeeded, and after every further step that spares the key. The
session may be in memory or in a file, with whatever entries it had before; the one in a file may be opened again
at any point. -/
theorem Session.saved_key_survives :
    (∀ baseline kind token now, (CorrelationKey.forKind baseline kind token now).fields.Plain) ∧
    ∀ key : CorrelationKey, key.fields.Plain → ∀ steps : List SessionStep,
      (∀ step ∈ steps, step.Spares key) →
      (∀ entries, (SessionStore.memory.saveKey key entries).1 = .ok () →
        ∀ r ∈ SessionStore.memory.course (fun m => m) (.run (.saveKey key) :: steps) entries,
          SessionStore.memory.Remembers key r.2) ∧
      (∀ file, (SessionFile.store.saveKey key file).1 = .ok () →
        ∀ r ∈ SessionFile.store.course SessionFile.reopen (.run (.saveKey key) :: steps) file,
          SessionFile.store.Remembers key r.2) := by
  refine ⟨fun _ kind _ _ => kind.plain_fields, ?_⟩
  intro key plain steps spared
  constructor
  · intro entries saves
    exact SessionStore.memory_keeps.remembers_saved (fun _ _ h => h) plain saves spared
  · intro file saves
    exact SessionFile.store_keeps.remembers_saved (fun _ _ h => h) plain saves spared

/-- A role whose name has to be escaped, in a file that is not there yet and is opened again. -/
theorem Session.escaped_key_survives :
    let key : CorrelationKey := .forKind 18446744073709551615 (.addMember "a.near" "\"\\\n") default
      .epoch
    (SessionFile.store.saveKey key .absent).1 = .ok () ∧
      ∀ r ∈ SessionFile.store.course SessionFile.reopen
          [.run (.saveKey key), .run (.recordResolved 3), .reopen] .absent,
        SessionFile.store.Remembers key r.2 := by
  intro key
  have saves : (SessionFile.store.saveKey key .absent).1 = .ok () := by
    obtain ⟨t, run, _⟩ := SessionFile.store_keptAs.saveKey key .absent .empty rfl
    rw [run, SessionStore.memory_saveKey_ok (Session.pendingKey_none rfl)]
  have spared : ∀ step ∈ [SessionStep.run (.recordResolved 3), .reopen], step.Spares key := by
    intro step hs
    rcases List.mem_cons.1 hs with rfl | hs
    · trivial
    · rw [List.mem_singleton.1 hs]
      trivial
  have plain : key.fields.Plain := ProposalKind.plain_fields _
  exact ⟨saves, (Session.saved_key_survives.2 key plain _ spared).2 .absent saves⟩

end Governance
