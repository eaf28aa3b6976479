import Governance.Proofs.Runs
import Governance.Session.Pending

/-!
# Sessions as maps

What an operation on a session gives and leaves depends on the entries alone. This file says how: which key
is pending among some entries (`Session.pendingKey`), which entries saving and consuming a key leave
(`Session.saved`, `Session.consumed`), and that the operations on a store in memory come to just that
(`memory_pending`, `memory_saveKey_ok`, `memory_invalidate_own`). Each of them changes the few entries it is
about and no other (`Session.get?_saved_other`, `Session.get?_consumed_other`, `Session.get?_resolved_other`).
Other stores are compared with the one in memory, or, where single calls matter, followed from the reading of
the pending entry on (`pending_of_read`, `invalidate_of_read`).
-/

namespace Governance

variable {m : StringMap String}

namespace Session

/-! ## What entries say -/

/-- The ID under a name. -/
def idUnder (name : String) (m : StringMap String) : Except Error (Option UInt64) :=
  match m.get? name with
  | none => .ok none
  | some raw =>
    match readId raw with
    | some id => .ok (some id)
    | none => .error (.session (.notProposalId name raw))

/-- The pending key. -/
def pendingKey (m : StringMap String) : Except Error (Option CorrelationKey) :=
  match m.get? SessionEntry.pendingCorrelation with
  | none => .ok none
  | some raw =>
    match CorrelationKey.ofText? raw with
    | some key => .ok (some key)
    | none => .error .serialization

/-! ## What operations leave -/

/-- The entries with the field of a key shown, or with its place cleared. -/
def showing (key : CorrelationKey) (m : StringMap String) : StringMap String :=
  match key.expectedKind.sessionEntry? with
  | none => m
  | some (entry, path) =>
    match key.fields.get? path with
    | some v => m.insert entry v.shown
    | none => m.erase entry

/-- The entries after a key was saved. -/
def saved (key : CorrelationKey) (m : StringMap String) : StringMap String :=
  (showing key (m.insert SessionEntry.lastProposalId (idText key.baseline))).insert
    SessionEntry.pendingCorrelation key.toText

/-- The entries after a key was consumed. -/
def consumed (key : CorrelationKey) (m : StringMap String) : StringMap String :=
  match key.expectedKind.sessionEntry? with
  | none => m.erase SessionEntry.pendingCorrelation
  | some (entry, _) => (m.erase SessionEntry.pendingCorrelation).erase entry

/-- The entries after a proposal was found. -/
def resolved (id : UInt64) (m : StringMap String) : StringMap String :=
  m.insert SessionEntry.resolvedProposalId (idText id)

/-! ## Single entries -/

/-- The entry that shows a field is none of the others. -/
theorem sessionEntry?_ne {tag : KindTag} {entry path : String}
    (h : tag.sessionEntry? = some (entry, path)) :
    entry ≠ SessionEntry.lastProposalId ∧ entry ≠ SessionEntry.pendingCorrelation ∧
      entry ≠ SessionEntry.resolvedProposalId := by
  cases tag <;> cases h <;> decide

end Session

/-- The field of the key is shown in the entry. -/
def CorrelationKey.ShowsIn (key : CorrelationKey) (entry : String) : Prop :=
  ∃ path, key.expectedKind.sessionEntry? = some (entry, path)

theorem CorrelationKey.ShowsIn.ne {key : CorrelationKey} {entry : String} (here : key.ShowsIn entry) :
    entry ≠ SessionEntry.lastProposalId ∧ entry ≠ SessionEntry.pendingCorrelation ∧
      entry ≠ SessionEntry.resolvedProposalId := by
  obtain ⟨path, place⟩ := here
  exact Session.sessionEntry?_ne place

namespace Session

section

variable {key : CorrelationKey} {name entry path : String}

/-- Showing the field of a key touches no entry but the one for the field. -/
theorem get?_showing (other : ¬ key.ShowsIn name) (m : StringMap String) :
    (showing key m).get? name = m.get? name := by
  unfold showing
  split
  · rfl
  · next entry path here =>
    have apart : ¬ name = entry := fun same => other ⟨path, same ▸ here⟩
    split
    · rw [StringMap.get?_insert, if_neg apart]
    · rw [StringMap.get?_erase, if_neg apart]

/-- Saving a key shows its field, or clears the place if the key has no such field. -/
theorem get?_saved_shown (here : key.expectedKind.sessionEntry? = some (entry, path))
    (m : StringMap String) :
    (saved key m).get? entry = (key.fields.get? path).map Json.Value.shown := by
  have place : ∀ m, (showing key m).get? entry = (key.fields.get? path).map Json.Value.shown := by
    intro m
    simp only [showing, here]
    cases key.fields.get? path with
    | none => exact (StringMap.get?_erase _ _ _).trans (if_pos rfl)
    | some v => exact (StringMap.get?_insert _ _ _ _).trans (if_pos rfl)
  rw [saved, StringMap.get?_insert, if_neg (sessionEntry?_ne here).2.1, place]

theorem get?_saved_last (key : CorrelationKey) (m : StringMap String) :
    (saved key m).get? SessionEntry.lastProposalId = some (idText key.baseline) := by
  rw [saved, StringMap.get?_insert, if_neg (by decide), get?_showing fun here => here.ne.1 rfl,
    StringMap.get?_insert, if_pos rfl]

theorem get?_saved_pending (key : CorrelationKey) (m : StringMap String) :
    (saved key m).get? SessionEntry.pendingCorrelation = some key.toText := by
  rw [saved, StringMap.get?_insert, if_pos rfl]

/-- Saving a key changes no entry but the three it writes to. -/
theorem get?_saved_other (last : name ≠ SessionEntry.lastProposalId)
    (pending : name ≠ SessionEntry.pendingCorrelation) (other : ¬ key.ShowsIn name)
    (m : StringMap String) : (saved key m).get? name = m.get? name := by
  rw [saved, StringMap.get?_insert, if_neg pending, get?_showing other, StringMap.get?_insert,
    if_neg last]

/-- No key is pending in the entries after one was consumed. -/
theorem get?_consumed_pending (key : CorrelationKey) (m : StringMap String) :
    (consumed key m).get? SessionEntry.pendingCorrelation = none := by
  unfold consumed
  split
  · exact (StringMap.get?_erase _ _ _).trans (if_pos rfl)
  · next entry path here =>
    rw [StringMap.get?_erase, if_neg (sessionEntry?_ne here).2.1.symm, StringMap.get?_erase,
      if_pos rfl]

/-- Consuming a key clears its entry. -/
theorem get?_consumed_shown (here : key.ShowsIn entry) (m : StringMap String) :
    (consumed key m).get? entry = none := by
  obtain ⟨path, here⟩ := here
  simp only [consumed, here]
  rw [StringMap.get?_erase, if_pos rfl]

/-- Consuming a key changes no entry but the two it removes. -/
theorem get?_consumed_other (pending : name ≠ SessionEntry.pendingCorrelation)
    (other : ¬ key.ShowsIn name) (m : StringMap String) :
    (consumed key m).get? name = m.get? name := by
  unfold consumed
  split
  · rw [StringMap.get?_erase, if_neg pending]
  · next entry path here =>
    have apart : ¬ name = entry := fun same => other ⟨path, same ▸ here⟩
    rw [StringMap.get?_erase, if_neg apart, StringMap.get?_erase, if_neg pending]

/-- Remembering a proposal changes no entry but its own. -/
theorem get?_resolved_other (other : name ≠ SessionEntry.resolvedProposalId) (id : UInt64)
    (m : StringMap String) : (resolved id m).get? name = m.get? name := by
  rw [resolved, StringMap.get?_insert, if_neg other]

end

/-! ## What can be read in them -/

theorem pendingKey_none (h : m.get? SessionEntry.pendingCorrelation = none) :
    pendingKey m = .ok none := by
  rw [pendingKey, h]

theorem pendingKey_some {raw : String} {key : CorrelationKey}
    (h : m.get? SessionEntry.pendingCorrelation = some raw)
    (back : CorrelationKey.ofText? raw = some key) : pendingKey m = .ok (some key) := by
  simp only [pendingKey, h, back]

/-- A key that was saved is the pending one, if its text is read back. -/
theorem pendingKey_saved {key : CorrelationKey} (back : CorrelationKey.ofText? key.toText = some key)
    (m : StringMap String) : pendingKey (saved key m) = .ok (some key) :=
  pendingKey_some (get?_saved_pending key m) back

/-- The baseline of a key that was saved is the one of the last submission. -/
theorem idUnder_saved (key : CorrelationKey) (m : StringMap String) :
    idUnder SessionEntry.lastProposalId (saved key m) = .ok (some key.baseline) := by
  simp only [idUnder, get?_saved_last, readId_idText]

/-- No key is pending after one was consumed. -/
theorem pendingKey_consumed (key : CorrelationKey) (m : StringMap String) :
    pendingKey (consumed key m) = .ok none :=
  pendingKey_none (get?_consumed_pending key m)

/-- Remembering a proposal does not touch the pending key. -/
theorem pendingKey_resolved (id : UInt64) (m : StringMap String) :
    pendingKey (resolved id m) = pendingKey m := by
  rw [pendingKey, pendingKey, get?_resolved_other (by decide)]

/-- A proposal that was remembered is the one found last. -/
theorem idUnder_resolved (id : UInt64) (m : StringMap String) :
    idUnder SessionEntry.resolvedProposalId (resolved id m) = .ok (some id) := by
  have held : (resolved id m).get? SessionEntry.resolvedProposalId = some (idText id) := by
    rw [resolved, StringMap.get?_insert, if_pos rfl]
  simp only [idUnder, held, readId_idText]

end Session

/-! ## Once the pending entry is read -/

namespace SessionStore

open Session

section

variable {τ : Type} {store : SessionStore (StateM τ)} {s t : τ} {key : CorrelationKey}

/-- A store that tells its pending entry as it is among some entries tells their pending key. -/
theorem pending_of_read (read : store.get SessionEntry.pendingCorrelation s =
      (.ok (m.get? SessionEntry.pendingCorrelation), t)) :
    store.pending s = (pendingKey m, t) := by
  rw [pending, run_bind_ok read, pendingKey]
  cases m.get? SessionEntry.pendingCorrelation with
  | none => rfl
  | some raw =>
    dsimp only
    cases CorrelationKey.ofText? raw <;> rfl

variable (here : pendingKey m = .ok (some key))
  (read : store.get SessionEntry.pendingCorrelation s =
    (.ok (m.get? SessionEntry.pendingCorrelation), t))

include here read

theorem loadKey_of_read : store.loadKey s = (.ok key, t) := by
  rw [loadKey, run_bind_ok (a := some key) (by rw [pending_of_read read, here])]
  rfl

/-- The key that is read is the one to be consumed. -/
theorem invalidate_of_read :
    store.invalidate key.token s =
      (do
        store.remove SessionEntry.pendingCorrelation
        match key.expectedKind.sessionEntry? with
        | some (entry, _) => store.remove entry
        | none => pure ()
        return true : ExceptT Error (StateM τ) Bool) t := by
  rw [invalidate, run_bind_ok (a := some key) (by rw [pending_of_read read, here])]
  exact congrFun (if_pos rfl) t

end

/-! ## The store in memory -/

@[simp] theorem memory_get (name : String) : memory.get name m = (.ok (m.get? name), m) := rfl

@[simp] theorem memory_set (name value : String) :
    memory.set name value m = (.ok (), m.insert name value) := rfl

@[simp] theorem memory_remove (name : String) : memory.remove name m = (.ok (), m.erase name) := rfl

theorem memory_getId (name : String) : memory.getId name m = (idUnder name m, m) := by
  rw [getId, run_bind_ok (memory_get name), idUnder]
  cases m.get? name with
  | none => rfl
  | some raw =>
    dsimp only
    cases readId raw <;> rfl

theorem memory_pending : memory.pending m = (pendingKey m, m) :=
  pending_of_read (memory_get _)

theorem memory_showField (key : CorrelationKey) :
    memory.showField key m = (.ok (), showing key m) := by
  rw [showField, showing]
  cases key.expectedKind.sessionEntry? with
  | none => rfl
  | some place =>
    dsimp only
    cases key.fields.get? place.2 <;> rfl

/-- A key that can be read stays in the session when another cannot replace it. -/
theorem memory_saveKey_error {key : CorrelationKey} {e : Error} (h : pendingKey m = .error e) :
    memory.saveKey key m = (.error e, m) :=
  run_bind_error (by rw [memory_pending, h])

theorem memory_saveKey_ok {key : CorrelationKey} {p : Option CorrelationKey}
    (h : pendingKey m = .ok p) : memory.saveKey key m = (.ok (), saved key m) := by
  rw [saveKey, run_bind_ok (a := p) (by rw [memory_pending, h]), run_bind_ok (memory_set _ _),
    run_bind_ok (memory_showField key)]
  rfl

theorem memory_loadKey_some {key : CorrelationKey} (h : pendingKey m = .ok (some key)) :
    memory.loadKey m = (.ok key, m) :=
  loadKey_of_read h (memory_get _)

theorem memory_loadKey_error {e : Error} (h : pendingKey m = .error e) :
    memory.loadKey m = (.error e, m) :=
  run_bind_error (by rw [memory_pending, h])

theorem memory_loadKey_none (h : pendingKey m = .ok none) :
    memory.loadKey m = (.error .noPendingCorrelation, m) := by
  rw [loadKey, run_bind_ok (a := none) (by rw [memory_pending, h])]
  rfl

/-- The token of the pending key consumes it. -/
theorem memory_invalidate_own {key : CorrelationKey} (h : pendingKey m = .ok (some key)) :
    memory.invalidate key.token m = (.ok true, consumed key m) := by
  rw [invalidate_of_read h (memory_get _), run_bind_ok (memory_remove _), consumed]
  cases key.expectedKind.sessionEntry? with
  | none => rfl
  | some place => rfl

theorem memory_invalidate_error {e : Error} (h : pendingKey m = .error e) (token : Uuid) :
    memory.invalidate token m = (.error e, m) :=
  run_bind_error (by rw [memory_pending, h])

theorem memory_invalidate_none (h : pendingKey m = .ok none) (token : Uuid) :
    memory.invalidate token m = (.ok false, m) := by
  rw [invalidate, run_bind_ok (a := none) (by rw [memory_pending, h])]
  rfl

end SessionStore

end Governance
