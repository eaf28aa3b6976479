import Governance.Proofs.Session.Failures
import Governance.Proofs.Session.Survival
import Governance.Proofs.Workflow.Interleaving

/-!
# What flows do to a session

Of all the requests in a run only the calls to the session change it, and each changes it in one of a few ways,
which are listed once (`SessionCall.Takes`, `SessionCall.takes`). A store that keeps its entries as the one in
memory does answers all flows as that one does, so a run on it is a run in memory (`Run.mirrored`); and if its
state stands for no entries at all, it refuses everything and nothing changes (`SessionStore.Firm`,
`Run.refused`). What is to be shown of runs can therefore be shown of runs in memory.
-/

namespace Governance

variable {τ : Type} {held : τ → StringMap String → Prop} {store : SessionStore (StateM τ)}

open Session

/-! ## Calls in memory -/

/-- What a call answers and leaves, by the entries it finds. -/
inductive SessionCall.Takes (m : StringMap String) :
    (call : SessionCall) → Except Error call.Answer → StringMap String → Prop
  | saved {pending : Option CorrelationKey} (readable : pendingKey m = .ok pending)
      (key : CorrelationKey) : Takes m (.save key) (.ok ()) (saved key m)
  | unsaved {e : Error} (unreadable : pendingKey m = .error e) (key : CorrelationKey) :
    Takes m (.save key) (.error e) m
  | loaded {key : CorrelationKey} (pending : pendingKey m = .ok (some key)) : Takes m .load (.ok key) m
  | unloaded (e : Error) : Takes m .load (.error e) m
  | cleared {key : CorrelationKey} (pending : pendingKey m = .ok (some key)) :
    Takes m (.invalidate key.token) (.ok true) (consumed key m)
  | spared {token : Uuid} {answer : Except Error Bool} (refused : answer ≠ .ok true) :
    Takes m (.invalidate token) answer m
  | recorded (id : UInt64) : Takes m (.record id) (.ok ()) (resolved id m)

section

variable {m n : StringMap String}

/-- Every call in memory is of one of these forms. -/
theorem SessionCall.takes {call : SessionCall} {answer : Except Error call.Answer}
    (h : call.perform SessionStore.memory.session m = (answer, n)) : call.Takes m answer n := by
  cases call with
  | save key =>
    cases readable : pendingKey m with
    | error e =>
      cases (SessionStore.memory_saveKey_error readable).symm.trans h
      exact .unsaved readable key
    | ok pending =>
      cases (SessionStore.memory_saveKey_ok readable).symm.trans h
      exact .saved readable key
  | load =>
    rcases readable : pendingKey m with e | _ | key
    · cases (SessionStore.memory_loadKey_error readable).symm.trans h
      exact .unloaded e
    · cases (SessionStore.memory_loadKey_none readable).symm.trans h
      exact .unloaded _
    · cases (SessionStore.memory_loadKey_some readable).symm.trans h
      exact .loaded readable
  | invalidate token =>
    rcases readable : pendingKey m with e | _ | key
    · cases (SessionStore.memory_invalidate_error readable token).symm.trans h
      exact .spared nofun
    · cases (SessionStore.memory_invalidate_none readable token).symm.trans h
      exact .spared nofun
    · by_cases own : key.token = token
      · subst own
        cases (SessionStore.memory_invalidate_own readable).symm.trans h
        exact .cleared readable
      · cases (memory_invalidate_other readable own).symm.trans h
        exact .spared nofun
  | record id =>
    cases h
    exact .recorded id

end

/-! ## Steps in memory -/

namespace FlowEvent

/-- The key that was saved. -/
def saved? : FlowEvent → Option CorrelationKey
  | asked (.session (.save key)) (.ok _) => some key
  | _ => none

/-- The token whose key was consumed. -/
def cleared? : FlowEvent → Option Uuid
  | asked (.session (.invalidate token)) (.ok true) => some token
  | _ => none

theorem eq_of_saved? {e : FlowEvent} {key : CorrelationKey} (h : e.saved? = some key) :
    e = .asked (.session (.save key)) (.ok ()) := by
  unfold saved? at h
  split at h
  · cases h
    rfl
  · cases h

theorem eq_of_cleared? {e : FlowEvent} {token : Uuid} (h : e.cleared? = some token) :
    e = .asked (.session (.invalidate token)) (.ok true) := by
  unfold cleared? at h
  split at h
  · cases h
    rfl
  · cases h

end FlowEvent

/-- What a step makes of the entries: it saves a key, consumes the pending key, or leaves both the pending key
and what is shown of it. -/
inductive FlowEvent.Changes (e : FlowEvent) (m : StringMap String) : StringMap String → Prop
  | kept (unsaved : e.saved? = none) (uncleared : e.cleared? = none) : Changes e m m
  | recorded (unsaved : e.saved? = none) (uncleared : e.cleared? = none) (id : UInt64) :
    Changes e m (resolved id m)
  | saved {pending : Option CorrelationKey} (readable : pendingKey m = .ok pending)
      {key : CorrelationKey} (saves : e.saved? = some key) : Changes e m (saved key m)
  | cleared {key : CorrelationKey} (pending : pendingKey m = .ok (some key))
      (clears : e.cleared? = some key.token) : Changes e m (consumed key m)

/-- Only the pending key is consumed. -/
theorem FlowEvent.Changes.pending_of_cleared {e : FlowEvent} {m n : StringMap String}
    (changes : e.Changes m n) {token : Uuid} (h : e.cleared? = some token) :
    ∃ key : CorrelationKey, key.token = token ∧ pendingKey m = .ok (some key) := by
  cases changes with
  | kept unsaved uncleared => cases uncleared.symm.trans h
  | recorded unsaved uncleared id => cases uncleared.symm.trans h
  | saved readable saves =>
    rw [eq_of_saved? saves] at h
    cases h
  | @cleared key pending clears => exact ⟨key, Option.some.inj (clears.symm.trans h), pending⟩

theorem Step.changes {c c' : Scene (StringMap String)} {i : Nat} {e : FlowEvent}
    (step : Step SessionStore.memory c i e c') : e.Changes c.session c'.session := by
  cases step with
  | begins idle op options patience => exact .kept rfl rfl
  | asks request answer waits answered =>
    cases request with
    | contract request =>
      cases answered
      exact .kept rfl rfl
    | stamp =>
      cases answered
      exact .kept rfl rfl
    | session call =>
      cases SessionCall.takes answered with
      | saved readable key => exact .saved readable rfl
      | unsaved unreadable key => exact .kept rfl rfl
      | loaded pending => exact .kept rfl rfl
      | unloaded e => exact .kept rfl rfl
      | cleared pending => exact .cleared pending rfl
      | @spared token answer refused =>
        refine .kept rfl ?_
        rcases answer with e | own
        · rfl
        · cases own with
          | false => rfl
          | true => exact absurd rfl refused
      | recorded id => exact .recorded rfl rfl id
  | ends finished => exact .kept rfl rfl

/-- The key that is loaded is the pending one. -/
theorem Step.loads {c c' : Scene (StringMap String)} {i : Nat} {key : CorrelationKey}
    (step : Step SessionStore.memory c i (.asked (.session .load) (.ok key)) c') :
    pendingKey c.session = .ok (some key) := by
  cases step with
  | asks request answer waits answered =>
    cases SessionCall.takes answered with
    | loaded pending => exact pending

/-! ## Runs in memory -/

namespace SessionStore

theorem KeptAs.call (kept : store.KeptAs held) (call : SessionCall) :
    Mirrors held (call.perform store.session) (call.perform memory.session) := by
  cases call with
  | save key => exact kept.saveKey key
  | load => exact kept.loadKey
  | invalidate token => exact kept.invalidate token
  | record id => exact kept.recordResolved id

end SessionStore

/-- A step on such a store is a step in memory. -/
theorem Step.mirrored (kept : store.KeptAs held) {c c' : Scene τ} {i : Nat} {e : FlowEvent}
    {m : StringMap String} (step : Step store c i e c') (here : held c.session m) :
    ∃ n, held c'.session n ∧ Step SessionStore.memory ⟨m, c.running⟩ i e ⟨n, c'.running⟩ := by
  cases step with
  | begins idle op options patience =>
    exact ⟨m, here, .begins (c := ⟨m, c.running⟩) idle op options patience⟩
  | asks request answer waits answered =>
    cases request with
    | contract request =>
      cases answered
      exact ⟨m, here, .asks (c := ⟨m, c.running⟩) _ _ waits rfl⟩
    | session call =>
      obtain ⟨t', same, left⟩ := kept.call call c.session m here
      cases same.symm.trans answered
      exact ⟨_, left, .asks (c := ⟨m, c.running⟩) _ _ waits rfl⟩
    | stamp =>
      cases answered
      exact ⟨m, here, .asks (c := ⟨m, c.running⟩) _ _ waits rfl⟩
  | ends finished => exact ⟨m, here, .ends (c := ⟨m, c.running⟩) finished⟩

/-- **A run on a store that keeps its entries is a run in memory.** -/
theorem Run.mirrored (kept : store.KeptAs held) {s₀ : τ} {T : Trace} {c : Scene τ}
    {m₀ : StringMap String} (run : Run store s₀ T c) (here : held s₀ m₀) :
    ∃ m, held c.session m ∧ Run SessionStore.memory m₀ T ⟨m, c.running⟩ := by
  induction run with
  | start => exact ⟨m₀, here, .start⟩
  | step before last ih =>
    obtain ⟨m, left, run⟩ := ih
    obtain ⟨n, left, step⟩ := last.mirrored kept left
    exact ⟨n, left, run.step step⟩

/-! ## Stores that cannot be read -/

/-- A store that keeps its entries, and refuses everything while its state stands for none. -/
structure SessionStore.Firm (store : SessionStore (StateM τ)) (held : τ → StringMap String → Prop) :
    Prop where
  kept : store.KeptAs held
  unread : ∀ s, (∀ m, ¬ held s m) → ∀ name, ∃ e, store.get name s = (.error e, s)
  unwritten : ∀ s, (∀ m, ¬ held s m) → ∀ name value, ∃ e, store.set name value s = (.error e, s)

namespace SessionStore

theorem Guarded.firm (guarded : store.Guarded held) : store.Firm held where
  kept := guarded.kept
  unread s none name := by
    rcases run : store.get name s with ⟨outcome, t⟩
    obtain rfl : t = s := (guarded.looks_get name).stays run
    cases outcome with
    | error e => exact ⟨e, rfl⟩
    | ok text =>
      obtain ⟨m, here⟩ := guarded.readable _ _ _ _ run
      exact absurd here (none m)
  unwritten := guarded.unset

theorem memory_firm : memory.Firm Eq :=
  memory_guarded.firm

/-- Nothing can be asked of a session that cannot be read. -/
theorem Firm.call_refused (firm : store.Firm held) {s : τ} (none : ∀ m, ¬ held s m)
    (call : SessionCall) : ∃ e, call.perform store.session s = (.error e, s) := by
  obtain ⟨e, unread⟩ := firm.unread s none SessionEntry.pendingCorrelation
  have pending : store.pending s = (.error e, s) := run_bind_error unread
  cases call with
  | save key => exact ⟨e, run_bind_error pending⟩
  | load => exact ⟨e, run_bind_error pending⟩
  | invalidate token => exact ⟨e, run_bind_error pending⟩
  | record id => exact firm.unwritten s none _ _

theorem Firm.pending_refused (firm : store.Firm held) {s : τ} (none : ∀ m, ¬ held s m) :
    ∃ e, (store.pending s).1 = .error e := by
  obtain ⟨e, unread⟩ := firm.unread s none SessionEntry.pendingCorrelation
  exact ⟨e, congrArg Prod.fst (run_bind_error unread)⟩

end SessionStore

namespace SessionFile

/-- A file that spells no entries cannot be read, and is not written over. -/
theorem store_firm : SessionFile.store.Firm fun file m => entriesOf file = .ok m :=
  store_guarded.firm

end SessionFile

/-- A session that cannot be read refuses every call, and stays as it is. -/
theorem Step.refused (firm : store.Firm held) {c c' : Scene τ} {i : Nat} {e : FlowEvent}
    (step : Step store c i e c') (none : ∀ m, ¬ held c.session m) :
    c'.session = c.session ∧
      ∀ call answer, e = .asked (.session call) answer → ∃ fault, answer = .error fault := by
  cases step with
  | begins idle op options patience => exact ⟨rfl, fun _ _ h => by cases h⟩
  | asks request answer waits answered =>
    cases request with
    | contract request => exact ⟨answered, fun _ _ h => by cases h⟩
    | stamp => exact ⟨answered, fun _ _ h => by cases h⟩
    | session call =>
      obtain ⟨fault, fails⟩ := firm.call_refused none call
      cases fails.symm.trans answered
      exact ⟨rfl, fun _ _ h => by cases h; exact ⟨fault, rfl⟩⟩
  | ends finished => exact ⟨rfl, fun _ _ h => by cases h⟩

/-- From a session that cannot be read nothing is ever answered, and nothing changes. -/
theorem Run.refused (firm : store.Firm held) {s₀ : τ} {T : Trace} {c : Scene τ}
    (run : Run store s₀ T c) (none : ∀ m, ¬ held s₀ m) :
    c.session = s₀ ∧ ∀ i call answer,
      (i, .asked (.session call) answer) ∈ T → ∃ fault, answer = .error fault := by
  induction run with
  | start => exact ⟨rfl, fun _ _ _ h => absurd h List.not_mem_nil⟩
  | @step T c c' j e before last ih =>
    obtain ⟨same, earlier⟩ := ih
    obtain ⟨same', now⟩ := last.refused firm (same ▸ none)
    refine ⟨same'.trans same, fun i call answer h => ?_⟩
    rcases List.mem_append.1 h with h | h
    · exact earlier i call answer h
    · exact now call answer (congrArg Prod.snd (List.mem_singleton.1 h)).symm

end Governance
