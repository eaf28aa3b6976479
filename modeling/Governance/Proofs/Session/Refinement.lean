import Governance.Proofs.Session.Entries
import Governance.Session.File

/-!
# Stores that do what the one in memory does

A store is as good as the one in memory if its states stand for entries and each of its three actions gives
the outcome and leaves the entries that the action in memory does (`SessionStore.KeptAs`). The relation goes
through sequencing (`Mirrors.bind`), so every operation on a session inherits it, and so does every course of
operations (`course_mirrors`).

The store in a file is of this kind (`SessionFile.store_keptAs`): its entries are what the file spells, and a
file that is not there spells none. Opening it again finds the file as it was. Main statement: from a missing
file on, whatever is done, and wherever the program ends and starts again in between, the file store answers
and holds what a store in memory does that lives on (`file_course_eq_memory_course`).
-/

namespace Governance

variable {τ α β : Type} {held : τ → StringMap String → Prop}

/-! ## Actions that come to the same -/

/-- From a state in which entries are held an action has the outcome that another one has on the entries in
memory, and in the state it leaves those are held that the other one leaves. -/
def Mirrors (held : τ → StringMap String → Prop) (x : ExceptT Error (StateM τ) α)
    (y : ExceptT Error (StateM (StringMap String)) α) : Prop :=
  ∀ s m, held s m → ∃ t, x s = ((y m).1, t) ∧ held t (y m).2

namespace Mirrors

theorem pure (a : α) : Mirrors held (pure a) (pure a) :=
  fun s _ h => ⟨s, rfl, h⟩

theorem throw (e : Error) : Mirrors held (throw e : ExceptT Error (StateM τ) α) (throw e) :=
  fun s _ h => ⟨s, rfl, h⟩

theorem bind {x : ExceptT Error (StateM τ) α} {y : ExceptT Error (StateM (StringMap String)) α}
    {f : α → ExceptT Error (StateM τ) β} {g : α → ExceptT Error (StateM (StringMap String)) β}
    (first : Mirrors held x y) (rest : ∀ a, Mirrors held (f a) (g a)) :
    Mirrors held (x >>= f) (y >>= g) := by
  intro s m h
  obtain ⟨t, hx, ht⟩ := first s m h
  rcases hy : y m with ⟨outcome, n⟩
  rw [hy] at hx ht
  cases outcome with
  | error e =>
    rw [run_bind_error hx, run_bind_error hy]
    exact ⟨t, rfl, ht⟩
  | ok a =>
    rw [run_bind_ok hx, run_bind_ok hy]
    exact rest a t n ht

end Mirrors

/-- A store whose states hold entries and which keeps them as the store in memory does. -/
structure SessionStore.KeptAs (store : SessionStore (StateM τ)) (held : τ → StringMap String → Prop) :
    Prop where
  get : ∀ name, Mirrors held (store.get name) (memory.get name)
  set : ∀ name value, Mirrors held (store.set name value) (memory.set name value)
  remove : ∀ name, Mirrors held (store.remove name) (memory.remove name)

namespace SessionStore

theorem memory_keptAs : memory.KeptAs Eq where
  get _ := fun _ _ h => by cases h; exact ⟨_, rfl, rfl⟩
  set _ _ := fun _ _ h => by cases h; exact ⟨_, rfl, rfl⟩
  remove _ := fun _ _ h => by cases h; exact ⟨_, rfl, rfl⟩

/-! ## Operations on a session -/

namespace KeptAs

variable {store : SessionStore (StateM τ)}

theorem getId (h : store.KeptAs held) (name : String) :
    Mirrors held (store.getId name) (memory.getId name) := by
  refine (h.get name).bind fun text => ?_
  cases text with
  | none => exact .pure none
  | some raw =>
    dsimp only
    cases readId raw with
    | none => exact .throw _
    | some id => exact .pure (some id)

theorem recordResolved (h : store.KeptAs held) (id : UInt64) :
    Mirrors held (store.recordResolved id) (memory.recordResolved id) :=
  h.set _ _

theorem pending (h : store.KeptAs held) : Mirrors held store.pending memory.pending := by
  refine (h.get _).bind fun text => ?_
  cases text with
  | none => exact .pure none
  | some raw =>
    dsimp only
    cases CorrelationKey.ofText? raw with
    | none => exact .throw _
    | some key => exact .pure (some key)

theorem loadKey (h : store.KeptAs held) : Mirrors held store.loadKey memory.loadKey := by
  refine h.pending.bind fun pending => ?_
  cases pending with
  | none => exact .throw _
  | some key => exact .pure key

theorem showField (h : store.KeptAs held) (key : CorrelationKey) :
    Mirrors held (store.showField key) (memory.showField key) := by
  rw [SessionStore.showField, SessionStore.showField]
  cases key.expectedKind.sessionEntry? with
  | none => exact .pure ()
  | some place =>
    dsimp only
    cases key.fields.get? place.2 with
    | none => exact h.remove _
    | some v => exact h.set _ _

theorem saveKey (h : store.KeptAs held) (key : CorrelationKey) :
    Mirrors held (store.saveKey key) (memory.saveKey key) :=
  h.pending.bind fun _ => (h.set _ _).bind fun _ => (h.showField key).bind fun _ => h.set _ _

theorem invalidate (h : store.KeptAs held) (token : Uuid) :
    Mirrors held (store.invalidate token) (memory.invalidate token) := by
  refine h.pending.bind fun pending => ?_
  cases pending with
  | none => exact .pure false
  | some key =>
    dsimp only
    split
    · refine (h.remove _).bind fun _ => ?_
      cases key.expectedKind.sessionEntry? with
      | none => exact .pure true
      | some place => exact (h.remove _).bind fun _ => .pure true
    · exact .pure false

/-! ## What is read -/

variable {s : τ} {m : StringMap String}

theorem get_of_held (kept : store.KeptAs held) (here : held s m) (name : String) :
    (store.get name s).1 = .ok (m.get? name) := by
  obtain ⟨t, run, _⟩ := kept.get name s m here
  rw [run, memory_get]

theorem getId_of_held (kept : store.KeptAs held) (here : held s m) (name : String) :
    (store.getId name s).1 = Session.idUnder name m := by
  obtain ⟨t, run, _⟩ := kept.getId name s m here
  rw [run, memory_getId]

/-- The pending key is that of the entries. -/
theorem pending_of_held (kept : store.KeptAs held) (here : held s m) :
    (store.pending s).1 = Session.pendingKey m := by
  obtain ⟨t, run, _⟩ := kept.pending s m here
  rw [run, memory_pending]

/-! ## What is written -/

variable {key : CorrelationKey}

theorem saveKey_of_readable (kept : store.KeptAs held) (here : held s m)
    {pending : Option CorrelationKey} (readable : Session.pendingKey m = .ok pending)
    (key : CorrelationKey) :
    ∃ t, store.saveKey key s = (.ok (), t) ∧ held t (Session.saved key m) := by
  obtain ⟨t, run, left⟩ := kept.saveKey key s m here
  rw [memory_saveKey_ok readable] at run left
  exact ⟨t, run, left⟩

theorem loadKey_of_pending (kept : store.KeptAs held) (here : held s m)
    (pending : Session.pendingKey m = .ok (some key)) :
    ∃ t, store.loadKey s = (.ok key, t) ∧ held t m := by
  obtain ⟨t, run, left⟩ := kept.loadKey s m here
  rw [memory_loadKey_some pending] at run left
  exact ⟨t, run, left⟩

theorem invalidate_of_pending (kept : store.KeptAs held) (here : held s m)
    (pending : Session.pendingKey m = .ok (some key)) :
    ∃ t, store.invalidate key.token s = (.ok true, t) ∧ held t (Session.consumed key m) := by
  obtain ⟨t, run, left⟩ := kept.invalidate key.token s m here
  rw [memory_invalidate_own pending] at run left
  exact ⟨t, run, left⟩

theorem recordResolved_of_held (kept : store.KeptAs held) (here : held s m) (id : UInt64) :
    ∃ t, store.recordResolved id s = (.ok (), t) ∧ held t (Session.resolved id m) :=
  kept.recordResolved id s m here

end KeptAs

end SessionStore

/-- A store of this kind that answers only while its state holds entries. -/
structure SessionStore.Keeps (store : SessionStore (StateM τ)) (held : τ → StringMap String → Prop) :
    Prop where
  kept : store.KeptAs held
  readable : ∀ s name text t, store.get name s = (.ok text, t) → ∃ m, held s m

namespace SessionStore

theorem memory_keeps : memory.Keeps Eq where
  kept := memory_keptAs
  readable s _ _ _ _ := ⟨s, rfl⟩

/-- If a key can be saved, the session holds entries whose pending key can be read, if there is one. -/
theorem Keeps.of_saveKey {store : SessionStore (StateM τ)} (keeps : store.Keeps held)
    {key : CorrelationKey} {s : τ} (saves : (store.saveKey key s).1 = .ok ()) :
    ∃ m pending, held s m ∧ Session.pendingKey m = .ok pending := by
  rcases got : store.get SessionEntry.pendingCorrelation s with ⟨answer, t⟩
  cases answer with
  | error e =>
    have stops : store.saveKey key s = (.error e, t) := run_bind_error (run_bind_error got)
    rw [stops] at saves
    cases saves
  | ok text =>
    obtain ⟨m, here⟩ := keeps.readable s _ _ _ got
    obtain ⟨t, same, _⟩ := keeps.kept.saveKey key s m here
    cases pending : Session.pendingKey m with
    | error e =>
      rw [same, memory_saveKey_error pending] at saves
      cases saves
    | ok p => exact ⟨m, p, here, pending⟩

end SessionStore

/-! ## Courses of operations -/

/-- What can be done with a session: reading and changing single entries, and the operations on keys and
IDs. -/
inductive SessionOp
  | get (name : String)
  | set (name value : String)
  | remove (name : String)
  | saveKey (key : CorrelationKey)
  | pending
  | loadKey
  | invalidate (token : Uuid)
  | recordResolved (id : UInt64)
  | lastProposalId
  | resolvedProposalId

/-- What an operation answers. -/
inductive SessionReply
  | done
  | text (held : Option String)
  | key (pending : Option CorrelationKey)
  | cleared (own : Bool)
  | id (held : Option UInt64)

/-- Carries an operation out. -/
def SessionOp.perform {m : Type → Type} [Monad m] (store : SessionStore m) :
    SessionOp → ExceptT Error m SessionReply
  | get name => do return .text (← store.get name)
  | set name value => do store.set name value; return .done
  | remove name => do store.remove name; return .done
  | saveKey key => do store.saveKey key; return .done
  | pending => do return .key (← store.pending)
  | loadKey => do return .key (some (← store.loadKey))
  | invalidate token => do return .cleared (← store.invalidate token)
  | recordResolved id => do store.recordResolved id; return .done
  | lastProposalId => do return .id (← store.lastProposalId)
  | resolvedProposalId => do return .id (← store.resolvedProposalId)

/-- A step in the life of a session. -/
inductive SessionStep
  | run (op : SessionOp)
  /-- The program ends, and the next one opens the store again. -/
  | reopen

/-- The answers to the steps of a course, each with the state it left; `reopen` says which state a store
finds that is opened again. -/
def SessionStore.course (store : SessionStore (StateM τ)) (reopen : τ → τ) :
    List SessionStep → τ → List (Except Error SessionReply × τ)
  | [], _ => []
  | .run op :: steps, s => op.perform store s :: course store reopen steps (op.perform store s).2
  | .reopen :: steps, s => (.ok .done, reopen s) :: course store reopen steps (reopen s)

namespace SessionStore

variable {store : SessionStore (StateM τ)}

/-- Every operation does on a store of this kind what it does in memory. -/
theorem KeptAs.perform (h : store.KeptAs held) (op : SessionOp) :
    Mirrors held (op.perform store) (op.perform memory) := by
  cases op with
  | get name => exact (h.get name).bind fun _ => .pure _
  | set name value => exact (h.set name value).bind fun _ => .pure _
  | remove name => exact (h.remove name).bind fun _ => .pure _
  | saveKey key => exact (h.saveKey key).bind fun _ => .pure _
  | pending => exact h.pending.bind fun _ => .pure _
  | loadKey => exact h.loadKey.bind fun _ => .pure _
  | invalidate token => exact (h.invalidate token).bind fun _ => .pure _
  | recordResolved id => exact (h.recordResolved id).bind fun _ => .pure _
  | lastProposalId => exact (h.getId _).bind fun _ => .pure _
  | resolvedProposalId => exact (h.getId _).bind fun _ => .pure _

/-- A course on a store of this kind is the course in memory without restarts, step by step, if opening the
store again keeps its entries. -/
theorem course_mirrors {entries : τ → Except Error (StringMap String)}
    (h : store.KeptAs fun s m => entries s = .ok m) {reopen : τ → τ}
    (keeps : ∀ s, entries (reopen s) = entries s) (steps : List SessionStep) {s : τ}
    {m : StringMap String} (hs : entries s = .ok m) :
    (store.course reopen steps s).map (fun r => (r.1, entries r.2)) =
      (memory.course (fun m => m) steps m).map (fun r => (r.1, .ok r.2)) := by
  -- what carries the induction is that the state stands for the entries in memory
  induction steps generalizing s m with
  | nil => rfl
  | cons step steps ih =>
    cases step with
    | run op =>
      obtain ⟨t, hx, ht⟩ := h.perform op s m hs
      simp only [course, List.map_cons, hx, ht, ih ht]
    | reopen =>
      have again : entries (reopen s) = .ok m := (keeps s).trans hs
      simp only [course, List.map_cons, again, ih again]

end SessionStore

/-! ## The store in a file -/

/-- Removing what is not there changes nothing. -/
theorem StringMap.erase_of_get?_none {m : StringMap α} {name : String} (h : m.get? name = none) :
    m.erase name = m := by
  refine StringMap.ext_get? fun key => ?_
  rw [StringMap.get?_erase]
  split
  · next eq => rw [eq, h]
  · rfl

namespace SessionFile

/-- A store that is opened finds the file as it is: it looks at it only when it is used. -/
def reopen (file : FileContent) : FileContent :=
  file

/-- What has entries is no directory, so it can be written. -/
theorem write_of_entriesOf {file : FileContent} {m : StringMap String} (h : entriesOf file = .ok m)
    (es : StringMap String) : write es file = (.ok (), written es) := by
  cases file with
  | directory => cases h
  | absent => rfl
  | bytes content => rfl

theorem withEntries_of_entriesOf {file : FileContent} {m : StringMap String}
    (h : entriesOf file = .ok m) (use : StringMap String → StateM FileContent (Except Error α)) :
    withEntries use file = use m file := by
  simp only [withEntries, ExceptT.mk, h]

/-- The file is read as its entries, and what is written to it is read again. -/
theorem store_keptAs : store.KeptAs fun file m => entriesOf file = .ok m where
  get name := fun file m h => ⟨file, withEntries_of_entriesOf h _, h⟩
  set name value := fun file m h => by
    refine ⟨written (m.insert name value), ?_, entriesOf_written _⟩
    exact (withEntries_of_entriesOf h _).trans (write_of_entriesOf h _)
  remove name := fun file m h => by
    have reads : store.remove name file =
        (if (m.get? name).isSome then write (m.erase name) else Pure.pure (.ok ())) file :=
      withEntries_of_entriesOf h _
    cases held : m.get? name with
    | none =>
      -- nothing is written, and the entries in memory do not change either
      refine ⟨file, by rw [reads, held]; rfl, ?_⟩
      rw [SessionStore.memory_remove, StringMap.erase_of_get?_none held]
      exact h
    | some value =>
      refine ⟨written (m.erase name), ?_, entriesOf_written _⟩
      rw [reads, held]
      exact write_of_entriesOf h _

theorem store_keeps : store.Keeps fun file m => entriesOf file = .ok m where
  kept := store_keptAs
  readable file name text t got := by
    cases h : entriesOf file with
    | ok m => exact ⟨m, rfl⟩
    | error e =>
      simp only [store, withEntries, ExceptT.mk, h] at got
      cases got

/-- **A session in a file is a session in memory that is never lost.** Whatever is done from a missing file
on, with the store closed and opened again anywhere in between, each step has the answer of a store in memory
that lives on, and after each step the file spells the entries which that one holds. -/
theorem file_course_eq_memory_course (steps : List SessionStep) :
    (store.course reopen steps .absent).map (fun r => (r.1, entriesOf r.2)) =
      (SessionStore.memory.course (fun m => m) steps .empty).map (fun r => (r.1, .ok r.2)) :=
  SessionStore.course_mirrors store_keptAs (fun _ => rfl) steps rfl

end SessionFile

end Governance
