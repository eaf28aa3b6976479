import Governance.Proofs.Session.Refinement
import Mathlib.Control.Monad.Basic

/-!
# Operations that fail

An operation on a session reads first and writes afterwards. What can fail is the reading: the file may be
no map, the pending text no key, a text no ID. Once the entries have been read, writing succeeds. So an action
that looks (`Looks`) followed by one that cannot fail while there are entries (`Succeeds`) fails without a
trace (`Looks.bind_succeeds`), and every operation is of this form on a store that is guarded
(`SessionStore.Guarded`): being read does not change it, and while its state stands for no entries it
refuses to be written. The store in memory and the one in a file are. Main statement: an operation that fails
leaves the session as it was, in memory and in a file, whatever stands there
(`SessionOp.failed_leaves_session`).
-/

namespace Governance

variable {τ α β : Type} {held : τ → StringMap String → Prop} {x : ExceptT Error (StateM τ) α}
  {f : α → ExceptT Error (StateM τ) β}

/-! ## Actions that fail without a trace -/

/-- If the action fails, the state is as it was. -/
def Clean (x : ExceptT Error (StateM τ) α) : Prop :=
  ∀ s e t, x s = (.error e, t) → t = s

/-- The action leaves the state as it is, and succeeds only if that holds entries. -/
structure Looks (held : τ → StringMap String → Prop) (x : ExceptT Error (StateM τ) α) : Prop where
  same : ∀ s, (x s).2 = s
  found : ∀ s a, (x s).1 = .ok a → ∃ m, held s m

/-- From every state that holds entries the action succeeds, and there are entries afterwards. -/
def Succeeds (held : τ → StringMap String → Prop) (x : ExceptT Error (StateM τ) α) : Prop :=
  ∀ s m, held s m → ∃ a t n, x s = (.ok a, t) ∧ held t n

namespace Succeeds

theorem pure (a : α) : Succeeds held (pure a) :=
  fun s m h => ⟨a, s, m, rfl, h⟩

theorem bind (first : Succeeds held x) (rest : ∀ a, Succeeds held (f a)) :
    Succeeds held (x >>= f) := by
  intro s m h
  obtain ⟨a, t, n, run, left⟩ := first s m h
  rw [run_bind_ok run]
  exact rest a t n left

/-- What mirrors an action in memory that never fails succeeds. -/
theorem of_mirrors {y : ExceptT Error (StateM (StringMap String)) α} (mirrors : Mirrors held x y)
    (succeeds : ∀ m, ∃ a, (y m).1 = .ok a) : Succeeds held x := by
  intro s m h
  obtain ⟨t, run, left⟩ := mirrors s m h
  obtain ⟨a, ok⟩ := succeeds m
  rw [ok] at run
  exact ⟨a, t, _, run, left⟩

end Succeeds

namespace Looks

theorem stays (looks : Looks held x) {s t : τ} {outcome : Except Error α}
    (run : x s = (outcome, t)) : t = s := by
  have same := looks.same s
  rw [run] at same
  exact same

theorem clean (looks : Looks held x) : Clean x :=
  fun _ _ _ run => looks.stays run

/-- What looks goes on looking if the rest does not change the state. -/
theorem bind (first : Looks held x) (rest : ∀ a s, (f a s).2 = s) : Looks held (x >>= f) := by
  constructor
  · intro s
    rcases run : x s with ⟨outcome, t⟩
    have stays := first.stays run
    subst stays
    cases outcome with
    | error e => rw [run_bind_error run]
    | ok a =>
      rw [run_bind_ok run]
      exact rest a t
  · intro s b ok
    rcases run : x s with ⟨outcome, t⟩
    cases outcome with
    | error e =>
      rw [run_bind_error run] at ok
      cases ok
    | ok a => exact first.found s a (by rw [run])

/-- **Reading comes first.** If what follows the reading cannot fail while there are entries, then only the
reading can fail, and nothing has been written by then. -/
theorem bind_succeeds (first : Looks held x) (rest : ∀ a, Succeeds held (f a)) :
    Clean (x >>= f) := by
  intro s e t fails
  rcases run : x s with ⟨outcome, u⟩
  have stays := first.stays run
  subst stays
  cases outcome with
  | error fault =>
    rw [run_bind_error run] at fails
    cases fails
    rfl
  | ok a =>
    obtain ⟨m, here⟩ := first.found u a (by rw [run])
    obtain ⟨b, v, n, succeeds, _⟩ := rest a u m here
    rw [run_bind_ok run, succeeds] at fails
    cases fails

end Looks

/-- What is made of the answer does not matter. -/
theorem Clean.bind_pure (clean : Clean x) (g : α → β) : Clean (x >>= fun a => pure (g a)) := by
  intro s e t fails
  rcases run : x s with ⟨outcome, u⟩
  cases outcome with
  | error fault =>
    rw [run_bind_error run] at fails
    cases fails
    exact clean s e t run
  | ok a =>
    rw [run_bind_ok run] at fails
    cases fails

/-! ## Stores -/

/-- A store that keeps its entries, stays as it is when it is read, and refuses to be written, staying as it
is as well, while its state holds no entries. -/
structure SessionStore.Guarded (store : SessionStore (StateM τ))
    (held : τ → StringMap String → Prop) : Prop extends store.Keeps held where
  same : ∀ name s, (store.get name s).2 = s
  unset : ∀ s, (∀ m, ¬ held s m) → ∀ name value, ∃ e, store.set name value s = (.error e, s)
  unremoved : ∀ s, (∀ m, ¬ held s m) → ∀ name, ∃ e, store.remove name s = (.error e, s)

namespace SessionStore

theorem memory_guarded : memory.Guarded Eq where
  toKeeps := memory_keeps
  same _ _ := rfl
  unset s none := absurd rfl (none s)
  unremoved s none := absurd rfl (none s)

namespace Guarded

variable {store : SessionStore (StateM τ)}

/-! ## Single entries -/

theorem looks_get (guarded : store.Guarded held) (name : String) : Looks held (store.get name) where
  same := guarded.same name
  found s text ok := guarded.readable s name text (store.get name s).2 (Prod.ext ok rfl)

theorem succeeds_set (guarded : store.Guarded held) (name value : String) :
    Succeeds held (store.set name value) :=
  .of_mirrors (guarded.kept.set name value) fun _ => ⟨(), rfl⟩

theorem succeeds_remove (guarded : store.Guarded held) (name : String) :
    Succeeds held (store.remove name) :=
  .of_mirrors (guarded.kept.remove name) fun _ => ⟨(), rfl⟩

/-- An action that succeeds where there are entries, and is refused where there are none, is clean. -/
theorem clean_of_refused (succeeds : Succeeds held x)
    (refused : ∀ s, (∀ m, ¬ held s m) → ∃ e, x s = (.error e, s)) : Clean x := by
  intro s e t fails
  by_cases here : ∃ m, held s m
  · obtain ⟨m, here⟩ := here
    obtain ⟨a, u, n, ok, _⟩ := succeeds s m here
    cases ok.symm.trans fails
  · obtain ⟨fault, stays⟩ := refused s fun m h => here ⟨m, h⟩
    cases stays.symm.trans fails
    rfl

theorem clean_set (guarded : store.Guarded held) (name value : String) :
    Clean (store.set name value) :=
  clean_of_refused (guarded.succeeds_set name value) fun s none => guarded.unset s none name value

theorem clean_remove (guarded : store.Guarded held) (name : String) : Clean (store.remove name) :=
  clean_of_refused (guarded.succeeds_remove name) fun s none => guarded.unremoved s none name

/-! ## Operations on a session -/

theorem looks_getId (guarded : store.Guarded held) (name : String) :
    Looks held (store.getId name) := by
  refine (guarded.looks_get name).bind fun text s => ?_
  cases text with
  | none => rfl
  | some raw =>
    dsimp only
    cases readId raw <;> rfl

theorem looks_pending (guarded : store.Guarded held) : Looks held store.pending := by
  refine (guarded.looks_get _).bind fun text s => ?_
  cases text with
  | none => rfl
  | some raw =>
    dsimp only
    cases CorrelationKey.ofText? raw <;> rfl

theorem looks_loadKey (guarded : store.Guarded held) : Looks held store.loadKey := by
  refine guarded.looks_pending.bind fun pending s => ?_
  cases pending <;> rfl

/-- Where no key is pending none is loaded, and nothing changes. -/
theorem loadKey_none (guarded : store.Guarded held) {s : τ} {m : StringMap String} (here : held s m)
    (none : Session.pendingKey m = .ok none) :
    store.loadKey s = (.error .noPendingCorrelation, s) := by
  obtain ⟨t, run, _⟩ := guarded.kept.loadKey s m here
  rw [memory_loadKey_none none] at run
  rw [run, guarded.looks_loadKey.stays run]

/-- A key that is loaded is the pending one. -/
theorem pendingKey_of_loadKey (guarded : store.Guarded held) {s : τ} {key : CorrelationKey}
    (loads : (store.loadKey s).1 = .ok key) :
    ∃ m, held s m ∧ Session.pendingKey m = .ok (some key) := by
  obtain ⟨m, here⟩ := guarded.looks_loadKey.found s key loads
  obtain ⟨t, run, _⟩ := guarded.kept.loadKey s m here
  rw [run] at loads
  rcases pending : Session.pendingKey m with e | _ | other
  · rw [memory_loadKey_error pending] at loads
    cases loads
  · rw [memory_loadKey_none pending] at loads
    cases loads
  · rw [memory_loadKey_some pending] at loads
    cases loads
    exact ⟨m, here, pending⟩

theorem succeeds_showField (guarded : store.Guarded held) (key : CorrelationKey) :
    Succeeds held (store.showField key) :=
  .of_mirrors (guarded.kept.showField key) fun _ => ⟨(), by rw [memory_showField]⟩

/-- A key is written only after the pending one was read. -/
theorem clean_saveKey (guarded : store.Guarded held) (key : CorrelationKey) :
    Clean (store.saveKey key) := by
  unfold saveKey
  refine guarded.looks_pending.bind_succeeds fun _ => ?_
  refine (guarded.succeeds_set _ _).bind fun _ => ?_
  exact (guarded.succeeds_showField key).bind fun _ => guarded.succeeds_set _ _

/-- A key is removed only after it was read. -/
theorem clean_invalidate (guarded : store.Guarded held) (token : Uuid) :
    Clean (store.invalidate token) := by
  unfold invalidate
  refine guarded.looks_pending.bind_succeeds fun pending => ?_
  cases pending with
  | none => exact .pure false
  | some key =>
    dsimp only
    split
    · refine (guarded.succeeds_remove _).bind fun _ => ?_
      cases key.expectedKind.sessionEntry? with
      | none => exact .pure true
      | some place => exact (guarded.succeeds_remove _).bind fun _ => .pure true
    · exact .pure false

/-- **An operation that fails leaves the state as it was.** -/
theorem clean_perform (guarded : store.Guarded held) (op : SessionOp) : Clean (op.perform store) := by
  cases op with
  | get name => exact (guarded.looks_get name).clean.bind_pure _
  | set name value => exact (guarded.clean_set name value).bind_pure _
  | remove name => exact (guarded.clean_remove name).bind_pure _
  | saveKey key => exact (guarded.clean_saveKey key).bind_pure _
  | pending => exact guarded.looks_pending.clean.bind_pure _
  | loadKey => exact guarded.looks_loadKey.clean.bind_pure _
  | invalidate token => exact (guarded.clean_invalidate token).bind_pure _
  | recordResolved id => exact (guarded.clean_set _ _).bind_pure _
  | lastProposalId => exact (guarded.looks_getId _).clean.bind_pure _
  | resolvedProposalId => exact (guarded.looks_getId _).clean.bind_pure _

end Guarded

end SessionStore

namespace SessionFile

/-- Reading does not change a file, and a file that spells no entries is not written over. -/
theorem store_guarded : store.Guarded fun file m => entriesOf file = .ok m where
  toKeeps := store_keeps
  same name file := by
    show (withEntries _ file).2 = file
    unfold withEntries
    dsimp only [ExceptT.mk]
    cases entriesOf file <;> rfl
  unset file none name value := by
    cases h : entriesOf file with
    | ok m => exact absurd h (none m)
    | error e => exact ⟨e, by simp only [store, withEntries, ExceptT.mk, h]⟩
  unremoved file none name := by
    cases h : entriesOf file with
    | ok m => exact absurd h (none m)
    | error e => exact ⟨e, by simp only [store, withEntries, ExceptT.mk, h]⟩

end SessionFile

/-! ## In memory and in a file -/

/-- **A session operation that fails changes nothing.** Reading, setting and removing an entry, saving, loading
and giving up a key, and reading and remembering IDs: if it returns an error, then the entries in memory are
those from before, whatever they were, and what stands at the place of the file is what stood there, be it
nothing, a directory, bytes that are no text, a text that is no map, or a map with anything in it. -/
theorem SessionOp.failed_leaves_session (op : SessionOp) (e : Error) :
    (∀ m n, op.perform SessionStore.memory m = (.error e, n) → n = m) ∧
      ∀ file file', op.perform SessionFile.store file = (.error e, file') → file' = file := by
  constructor
  · intro m n fails
    exact SessionStore.memory_guarded.clean_perform op m e n fails
  · intro file file' fails
    exact SessionFile.store_guarded.clean_perform op file e file' fails

/-- A pending text that is no key can be neither replaced nor given up. The entries in memory stay, and the file
keeps the layout that someone gave it by hand. -/
theorem SessionOp.unreadable_key_stays :
    let entries := StringMap.ofList [(SessionEntry.pendingCorrelation, "?")]
    let file := FileContent.ofText "\x7b \"pending_correlation\" : \"?\",\"in_progress_id\":\"7\"\x7d"
    let save := saveKey (.forKind 5 (.mintRoot 7) default .epoch)
    (∃ n, save.perform SessionStore.memory entries = (.error .serialization, n) ∧ n = entries) ∧
      ∃ file', (invalidate default).perform SessionFile.store file = (.error .serialization, file') ∧
        file' = file := by
  intro entries file save
  have unread : Session.pendingKey entries = .error .serialization := by decide +kernel
  have saves : save.perform SessionStore.memory entries = (.error .serialization, entries) :=
    run_bind_error (SessionStore.memory_saveKey_error unread)
  have unread' : (SessionFile.store.invalidate default file).1 = .error .serialization := by
    decide +kernel
  have clears : (invalidate default).perform SessionFile.store file =
      (.error .serialization, (SessionFile.store.invalidate default file).2) :=
    run_bind_error (Prod.ext unread' rfl)
  exact ⟨⟨_, saves, (failed_leaves_session save _).1 _ _ saves⟩,
    ⟨_, clears, (failed_leaves_session (invalidate default) _).2 _ _ clears⟩⟩

end Governance
