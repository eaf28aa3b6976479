import Governance.Proofs.Correlation.Kinds
import Governance.Proofs.Workflow.SharedSession
import Mathlib.Data.List.Nodup

/-!
# Whose key it is

Flows that share a session find keys of each other pending in it. Between loading a key and consuming it a flow
waits for the contract, and meanwhile other flows may save, fail and resolve; all that protects a key is its
token. The books of a run (`Books`) say why that is enough, as long as no token is given twice: each key that
was saved has a token of its own, which was given to the flow right before; the pending key is one of these
keys, or was there at the beginning, and was not consumed. One step keeps the books (`Books.step`). Main
statement: a pending key stays pending until a newer one replaces it, or until it is consumed by a flow whose
submission of it failed or that had loaded it; and no key is consumed twice
(`Run.pending_until_replaced_or_consumed`).
-/

namespace Governance

variable {τ : Type} {held : τ → StringMap String → Prop} {store : SessionStore (StateM τ)}

open Session

/-! ## What a trace says -/

namespace FlowEvent

/-- The token that was given. -/
def stamped? : FlowEvent → Option Uuid
  | asked .stamp (token, _) => some token
  | _ => none

end FlowEvent

section

variable {α β : Type} {f : α → Option β} {l : List α} {x : α}

theorem mem_filterMap_snoc {b : β} :
    b ∈ (l ++ [x]).filterMap f ↔ b ∈ l.filterMap f ∨ f x = some b := by
  rw [List.filterMap_append, List.mem_append]
  simp

/-- What a list gives has no repetitions after one more entry, if that gives something new. -/
theorem nodup_filterMap_snoc (h : (l.filterMap f).Nodup)
    (new : ∀ b, f x = some b → b ∉ l.filterMap f) : ((l ++ [x]).filterMap f).Nodup := by
  rw [List.filterMap_append, List.filterMap_cons, List.filterMap_nil]
  cases given : f x with
  | none => simpa using h
  | some b =>
    have longer := List.Nodup.concat (new b given) h
    rwa [List.concat_eq_append] at longer

end

namespace Trace

/-- The tokens that were given, in order. -/
def stamps (T : Trace) : List Uuid :=
  T.filterMap fun x => x.2.stamped?

/-- The keys that were saved, in order. -/
def saves (T : Trace) : List CorrelationKey :=
  T.filterMap fun x => x.2.saved?

/-- The tokens whose keys were consumed, in order. -/
def clears (T : Trace) : List Uuid :=
  T.filterMap fun x => x.2.cleared?

/-- The token that a flow has just been given. -/
def token? (T : Trace) (i : Nat) : Option Uuid :=
  (T.of i).getLast?.bind FlowEvent.stamped?

variable {T : Trace} {i : Nat} {e : FlowEvent}

theorem mem_stamps_snoc {token : Uuid} :
    token ∈ (T ++ [(i, e)]).stamps ↔ token ∈ T.stamps ∨ e.stamped? = some token :=
  mem_filterMap_snoc

theorem mem_saves_snoc {key : CorrelationKey} :
    key ∈ (T ++ [(i, e)]).saves ↔ key ∈ T.saves ∨ e.saved? = some key :=
  mem_filterMap_snoc

theorem mem_clears_snoc {token : Uuid} :
    token ∈ (T ++ [(i, e)]).clears ↔ token ∈ T.clears ∨ e.cleared? = some token :=
  mem_filterMap_snoc

theorem mem_saves {key : CorrelationKey} (h : (i, .asked (.session (.save key)) (.ok ())) ∈ T) :
    key ∈ T.saves :=
  List.mem_filterMap.2 ⟨_, h, rfl⟩

/-- After a step the flow that took it holds what the step gave, and the others hold what they held. -/
theorem token?_snoc {j : Nat} {token : Uuid} (h : (T ++ [(i, e)]).token? j = some token) :
    (i = j ∧ e.stamped? = some token) ∨ (i ≠ j ∧ T.token? j = some token) := by
  by_cases here : i = j
  · subst here
    rw [token?, of_snoc_self, List.getLast?_concat] at h
    exact .inl ⟨rfl, h⟩
  · rw [token?, of_snoc_other T here] at h
    exact .inr ⟨here, h⟩

theorem mem_stamps_of_token? {token : Uuid} (h : T.token? i = some token) : token ∈ T.stamps := by
  obtain ⟨e, last, stamped⟩ := Option.bind_eq_some_iff.1 h
  exact List.mem_filterMap.2 ⟨(i, e), mem_of.1 (List.mem_of_getLast? last), stamped⟩

/-- No flow uses the session but in its workflow. -/
def Workflows (T : Trace) : Prop :=
  ∀ i call options patience, (i, .begins (.session call) options patience) ∉ T

end Trace

/-! ## Who may give up a key -/

/-- A flow saved the key and has just failed to submit, or it loaded the key and has only read pages since. -/
inductive Entitled (key : CorrelationKey) : List FlowEvent → Prop
  | failed (past : List FlowEvent) (input : ProposalInput) (e : Error) :
    Entitled key (past ++ [.asked (.session (.save key)) (.ok ()),
      .asked (.contract (.submitProposal input)) (.error e)])
  | loaded (past pages : List FlowEvent) (reading : ∀ e ∈ pages, e.IsPage) :
    Entitled key (past ++ .asked (.session .load) (.ok key) :: pages)

/-- A workflow saves the key whose token it has just been given. -/
theorem Request.Due.save_own {T : Trace} {i : Nat} {key : CorrelationKey}
    (due : Request.Due (T.of i) (.session (.save key))) (workflows : T.Workflows) :
    T.token? i = some key.token ∧ key.Made := by
  rcases due.save_cases with ⟨options, patience, direct⟩ | ⟨before, now, same, baseline, kind, made⟩
  · exact absurd (Trace.mem_of.1 direct) (workflows i (.save key) options patience)
  · refine ⟨?_, baseline, kind, key.token, now, made⟩
    rw [Trace.token?, same, List.getLast?_concat]
    rfl

/-- A workflow gives up a key that it is entitled to. -/
theorem Request.Due.invalidate_own {T : Trace} {i : Nat} {token : Uuid}
    (due : Request.Due (T.of i) (.session (.invalidate token))) (workflows : T.Workflows) :
    ∃ key : CorrelationKey, key.token = token ∧ Entitled key (T.of i) := by
  generalize same : T.of i = past at due
  cases due with
  | direct past call options patience =>
    refine absurd (Trace.mem_of.1 ?_) (workflows i (.invalidate token) options patience)
    rw [same]
    exact List.mem_append_right _ List.mem_cons_self
  | giveUp past key input e => exact ⟨key, rfl, .failed past input e⟩
  | consume past key pages reading => exact ⟨key, rfl, .loaded past pages reading⟩

/-! ## The books -/

/-- The key was pending at the beginning, or was saved. -/
def Known (m₀ : StringMap String) (T : Trace) (key : CorrelationKey) : Prop :=
  pendingKey m₀ = .ok (some key) ∨ key ∈ T.saves

/-- No token was given twice, and none is that of the key pending at the beginning. -/
structure Distinct (m₀ : StringMap String) (T : Trace) : Prop where
  nodup : T.stamps.Nodup
  fresh : ∀ key, pendingKey m₀ = .ok (some key) → key.token ∉ T.stamps

/-- What is known of the keys and tokens of a run. -/
structure Books (m₀ : StringMap String) (T : Trace) (m : StringMap String) : Prop where
  stamped : ∀ key ∈ T.saves, key.token ∈ T.stamps
  apart : (T.saves.map CorrelationKey.token).Nodup
  unused : ∀ i token, T.token? i = some token → ∀ key ∈ T.saves, key.token ≠ token
  own : ∀ i j token, T.token? i = some token → T.token? j = some token → i = j
  pending : ∀ key, pendingKey m = .ok (some key) → Known m₀ T key ∧ key.token ∉ T.clears
  loaded : ∀ i key, (i, .asked (.session .load) (.ok key)) ∈ T → Known m₀ T key
  cleared : ∀ token ∈ T.clears, ∃ key : CorrelationKey, key.token = token ∧ Known m₀ T key
  once : T.clears.Nodup

section

variable {m₀ m n : StringMap String} {T : Trace} {i : Nat} {e : FlowEvent}

theorem Known.snoc {key : CorrelationKey} (h : Known m₀ T key) : Known m₀ (T ++ [(i, e)]) key :=
  h.imp_right fun saved => Trace.mem_saves_snoc.2 (.inl saved)

namespace Distinct

theorem before (distinct : Distinct m₀ (T ++ [(i, e)])) : Distinct m₀ T where
  nodup := by
    have nodup := distinct.nodup
    rw [Trace.stamps, List.filterMap_append] at nodup
    exact nodup.of_append_left
  fresh key h mem := distinct.fresh key h (Trace.mem_stamps_snoc.2 (.inl mem))

/-- The token that is given is a new one. -/
theorem stamped (distinct : Distinct m₀ (T ++ [(i, e)])) {token : Uuid}
    (h : e.stamped? = some token) : token ∉ T.stamps := by
  have nodup := distinct.nodup
  rw [Trace.stamps, List.filterMap_append] at nodup
  intro mem
  exact (List.nodup_append.1 nodup).2.2 token mem token (by simp [h]) rfl

end Distinct

namespace Books

theorem start (m₀ : StringMap String) : Books m₀ [] m₀ where
  stamped _ h := absurd h List.not_mem_nil
  apart := List.nodup_nil
  unused _ _ h := by cases h
  own _ _ _ h := by cases h
  pending key h := ⟨.inl h, List.not_mem_nil⟩
  loaded _ _ h := absurd h List.not_mem_nil
  cleared _ h := absurd h List.not_mem_nil
  once := List.nodup_nil

/-- Keys of one token are one key. -/
theorem same_key (books : Books m₀ T m) (distinct : Distinct m₀ T) {k l : CorrelationKey}
    (hk : Known m₀ T k) (hl : Known m₀ T l) (same : k.token = l.token) : k = l := by
  rcases hk with first | hk <;> rcases hl with first' | hl
  · exact Option.some.inj (Except.ok.inj (first.symm.trans first'))
  · exact absurd (same ▸ books.stamped l hl) (distinct.fresh k first)
  · exact absurd (same ▸ books.stamped k hk) (distinct.fresh l first')
  · exact List.inj_on_of_nodup_map books.apart hk hl same

/-- A token that was given and not used is that of no key. -/
theorem unknown (books : Books m₀ T m) (distinct : Distinct m₀ T) {token : Uuid}
    (held : T.token? i = some token) {key : CorrelationKey} (known : Known m₀ T key) :
    key.token ≠ token := by
  rcases known with first | saved
  · intro same
    exact distinct.fresh key first (same ▸ Trace.mem_stamps_of_token? held)
  · exact books.unused i token held key saved

/-- **One step keeps the books**, if a key is saved by the flow that holds its token, and loaded if it is
pending. -/
theorem step (books : Books m₀ T m) (distinct : Distinct m₀ (T ++ [(i, e)])) (changes : e.Changes m n)
    (made : ∀ key, e.saved? = some key → key.Made)
    (saves : ∀ key, e.saved? = some key → T.token? i = some key.token)
    (loads : ∀ key, e = .asked (.session .load) (.ok key) → pendingKey m = .ok (some key)) :
    Books m₀ (T ++ [(i, e)]) n where
  stamped key h := by
    rcases Trace.mem_saves_snoc.1 h with h | now
    · exact Trace.mem_stamps_snoc.2 (.inl (books.stamped key h))
    · exact Trace.mem_stamps_snoc.2 (.inl (Trace.mem_stamps_of_token? (saves key now)))
  apart := by
    have apart := books.apart
    rw [Trace.saves, List.map_filterMap] at apart ⊢
    refine nodup_filterMap_snoc apart fun token h mem => ?_
    rw [← List.map_filterMap] at mem
    obtain ⟨key, saved, rfl⟩ := Option.map_eq_some_iff.1 h
    obtain ⟨other, earlier, same⟩ := List.mem_map.1 mem
    exact books.unused i key.token (saves key saved) other earlier same
  unused j token h key saved := by
    rcases Trace.token?_snoc h with ⟨rfl, given⟩ | ⟨other, given⟩
    · rcases Trace.mem_saves_snoc.1 saved with saved | now
      · intro same
        exact distinct.stamped given (same ▸ books.stamped key saved)
      · rw [FlowEvent.eq_of_saved? now] at given
        cases given
    · rcases Trace.mem_saves_snoc.1 saved with saved | now
      · exact books.unused j token given key saved
      · -- the token of the key is held by the flow that saves it
        intro same
        exact other (books.own i j token (same ▸ saves key now) given)
  own j k token hj hk := by
    rcases Trace.token?_snoc hj with ⟨rfl, given⟩ | ⟨_, earlier⟩ <;>
      rcases Trace.token?_snoc hk with ⟨rfl, given'⟩ | ⟨_, earlier'⟩
    · rfl
    · exact absurd (Trace.mem_stamps_of_token? earlier') (distinct.stamped given)
    · exact absurd (Trace.mem_stamps_of_token? earlier) (distinct.stamped given')
    · exact books.own j k token earlier earlier'
  pending key h := by
    -- a key that was pending before is still not consumed
    have kept : e.cleared? = none → pendingKey m = .ok (some key) →
        Known m₀ (T ++ [(i, e)]) key ∧ key.token ∉ (T ++ [(i, e)]).clears := by
      intro uncleared before
      obtain ⟨known, unconsumed⟩ := books.pending key before
      refine ⟨known.snoc, fun mem => ?_⟩
      rcases Trace.mem_clears_snoc.1 mem with earlier | now
      · exact unconsumed earlier
      · rw [uncleared] at now
        cases now
    cases changes with
    | kept unsaved uncleared => exact kept uncleared h
    | recorded unsaved uncleared id => exact kept uncleared (pendingKey_resolved id m ▸ h)
    | @saved _ _ newer now =>
      have back := pendingKey_saved (made newer now).ofText?_toText m
      cases back.symm.trans h
      refine ⟨.inr (Trace.mem_saves_snoc.2 (.inr now)), fun mem => ?_⟩
      rcases Trace.mem_clears_snoc.1 mem with earlier | clears
      · obtain ⟨other, same, known⟩ := books.cleared _ earlier
        exact books.unknown distinct.before (saves key now) known same
      · rw [FlowEvent.eq_of_saved? now] at clears
        cases clears
    | cleared pending now => cases (pendingKey_consumed _ m).symm.trans h
  loaded j key h := by
    rcases List.mem_append.1 h with earlier | now
    · exact (books.loaded j key earlier).snoc
    · have now : e = .asked (.session .load) (.ok key) :=
        (congrArg Prod.snd (List.mem_singleton.1 now)).symm
      exact (books.pending key (loads key now)).1.snoc
  cleared token h := by
    rcases Trace.mem_clears_snoc.1 h with earlier | now
    · obtain ⟨key, same, known⟩ := books.cleared token earlier
      exact ⟨key, same, known.snoc⟩
    · obtain ⟨key, rfl, pending⟩ := changes.pending_of_cleared now
      exact ⟨key, rfl, (books.pending key pending).1.snoc⟩
  once := by
    refine nodup_filterMap_snoc books.once fun token now earlier => ?_
    obtain ⟨key, rfl, pending⟩ := changes.pending_of_cleared now
    exact (books.pending key pending).2 earlier

end Books

end

namespace Run

variable {T : Trace} {i : Nat} {e : FlowEvent}

theorem workflows_before (workflows : (T ++ [(i, e)]).Workflows) : T.Workflows :=
  fun j call options patience h => workflows j call options patience (List.mem_append_left _ h)

/-- The books of every run are kept. -/
theorem books {m₀ : StringMap String} {c : Scene (StringMap String)}
    (run : Run SessionStore.memory m₀ T c) (workflows : T.Workflows) (distinct : Distinct m₀ T) :
    Books m₀ T c.session := by
  induction run with
  | start => exact .start m₀
  | @step T c c' i e before last ih =>
    have earlier : T.Workflows := workflows_before workflows
    have due : ∀ key, e.saved? = some key → T.token? i = some key.token ∧ key.Made := by
      intro key h
      obtain rfl := FlowEvent.eq_of_saved? h
      exact (before.due last).save_own earlier
    refine (ih earlier distinct.before).step distinct last.changes (fun key h => (due key h).2)
      (fun key h => (due key h).1) ?_
    intro key h
    subst h
    exact last.loads

/-- What becomes of a pending key in memory. -/
theorem memory_pending_until {m₀ : StringMap String} {c c' : Scene (StringMap String)}
    (run : Run SessionStore.memory m₀ T c) (last : Step SessionStore.memory c i e c')
    (workflows : T.Workflows) (distinct : Distinct m₀ (T ++ [(i, e)])) {key : CorrelationKey}
    (pending : pendingKey c.session = .ok (some key)) :
    pendingKey c'.session = .ok (some key) ∨
      (∃ newer : CorrelationKey, e = .asked (.session (.save newer)) (.ok ()) ∧
        newer.token ≠ key.token ∧ pendingKey c'.session = .ok (some newer)) ∨
      (e = .asked (.session (.invalidate key.token)) (.ok true) ∧
        pendingKey c'.session = .ok none ∧ Entitled key (T.of i)) := by
  have books := run.books workflows distinct.before
  obtain ⟨m, running⟩ := c
  obtain ⟨n, running'⟩ := c'
  have changes : e.Changes m n := last.changes
  cases changes with
  | kept unsaved uncleared => exact .inl pending
  | recorded unsaved uncleared id =>
    refine .inl ?_
    rw [pendingKey_resolved]
    exact pending
  | @saved _ _ newer saves =>
    obtain rfl := FlowEvent.eq_of_saved? saves
    obtain ⟨held, made⟩ := (run.due last).save_own workflows
    refine .inr (.inl ⟨newer, rfl, ?_, ?_⟩)
    · exact (books.unknown distinct.before held (books.pending key pending).1).symm
    · exact pendingKey_saved made.ofText?_toText _
  | @cleared own pending' clears =>
    cases pending.symm.trans pending'
    obtain rfl := FlowEvent.eq_of_cleared? clears
    obtain ⟨other, same, entitled⟩ := (run.due last).invalidate_own workflows
    -- the key that the flow is entitled to has the same token, so it is the pending one
    have known : Known m₀ T other := by
      generalize seen : T.of i = past at entitled
      cases entitled with
      | failed past input e =>
        refine .inr (Trace.mem_saves (i := i) (Trace.mem_of.1 ?_))
        rw [seen]
        exact List.mem_append_right _ List.mem_cons_self
      | loaded past pages reading =>
        refine books.loaded i other (Trace.mem_of.1 ?_)
        rw [seen]
        exact List.mem_append_right _ List.mem_cons_self
    obtain rfl := books.same_key distinct.before known (books.pending key pending).1 same
    exact .inr (.inr ⟨rfl, pendingKey_consumed _ _, entitled⟩)

/-- **No flow clears another flow's key, and every key is consumed at most once.** Any number of flows share a
session, each submitting, resolving, or both, as operations of a workflow do (`Operation.flow`), any number of
times, and taking turns in any order; the contract answers each of them as it likes, and no token is given twice.
Whatever key is pending before a step, it is pending after it, unless the step saves a newer key, which is
pending instead, or consumes the key by its own token: then the flow that does so has just failed to submit it,
or has loaded it and read pages since. Over the whole run each token consumes a key at most once, namely a key
that was saved or pending at the beginning. The session may be in any state, even one that cannot be read. -/
theorem pending_until_replaced_or_consumed (firm : store.Firm held) {s₀ : τ} {c c' : Scene τ}
    (run : Run store s₀ T c) (last : Step store c i e c') (workflows : (T ++ [(i, e)]).Workflows)
    (nodup : (T ++ [(i, e)]).stamps.Nodup)
    (fresh : ∀ key, (store.pending s₀).1 = .ok (some key) → key.token ∉ (T ++ [(i, e)]).stamps) :
    (∀ key, (store.pending c.session).1 = .ok (some key) →
      (store.pending c'.session).1 = .ok (some key) ∨
        (∃ newer : CorrelationKey, e = .asked (.session (.save newer)) (.ok ()) ∧
          newer.token ≠ key.token ∧ (store.pending c'.session).1 = .ok (some newer)) ∨
        (e = .asked (.session (.invalidate key.token)) (.ok true) ∧
          (store.pending c'.session).1 = .ok none ∧ Entitled key (T.of i))) ∧
      (T ++ [(i, e)]).clears.Nodup ∧
      ∀ token ∈ (T ++ [(i, e)]).clears, ∃ key : CorrelationKey, key.token = token ∧
        ((store.pending s₀).1 = .ok (some key) ∨ key ∈ (T ++ [(i, e)]).saves) := by
  by_cases readable : ∃ m₀, held s₀ m₀
  · obtain ⟨m₀, here⟩ := readable
    have pending : ∀ {s m}, held s m → (store.pending s).1 = pendingKey m :=
      fun h => firm.kept.pending_of_held h
    rw [pending here] at fresh ⊢
    -- the run and its last step are those of the store in memory
    obtain ⟨m, left, mirror⟩ := run.mirrored firm.kept here
    obtain ⟨n, left', step⟩ := last.mirrored firm.kept left
    have distinct : Distinct m₀ (T ++ [(i, e)]) := ⟨nodup, fresh⟩
    have books := (mirror.step step).books workflows distinct
    refine ⟨fun key found => ?_, books.once, books.cleared⟩
    rw [pending left] at found
    rw [pending left']
    exact mirror.memory_pending_until step (workflows_before workflows) distinct found
  · have none : ∀ m, ¬ held s₀ m := fun m h => readable ⟨m, h⟩
    obtain ⟨same, refused⟩ := (run.step last).refused firm none
    -- nothing can be asked of the session, so no key is pending in it and none is consumed
    have cleared : (T ++ [(i, e)]).clears = [] := by
      refine List.eq_nil_iff_forall_not_mem.2 fun token mem => ?_
      obtain ⟨⟨j, event⟩, happened, clears⟩ := List.mem_filterMap.1 mem
      obtain rfl : event = _ := FlowEvent.eq_of_cleared? clears
      obtain ⟨fault, fails⟩ := refused j _ _ happened
      cases fails
    rw [cleared]
    refine ⟨fun key found => ?_, List.nodup_nil, fun _ h => absurd h List.not_mem_nil⟩
    obtain ⟨fault, fails⟩ := firm.pending_refused none
    rw [(run.refused firm none).1, fails] at found
    cases found

/-- Two flows save a key, and both fail to submit. The token of the first consumes nothing, since the key of the
second has replaced its own; the token of the second consumes the key that is pending. -/
theorem second_key_consumed_by_its_flow :
    let first : CorrelationKey := .forKind 0 (.mintRoot 1) ⟨1⟩ .epoch
    let second : CorrelationKey := .forKind 0 (.mintRoot 2) ⟨2⟩ .epoch
    ∃ T c c', Run SessionStore.memory .empty T c ∧
      Step SessionStore.memory c 1 (.asked (.session (.invalidate second.token)) (.ok true)) c' ∧
      (0, .asked (.session (.invalidate first.token)) (.ok false)) ∈ T ∧
      (SessionStore.memory.pending c.session).1 = .ok (some second) ∧
      (SessionStore.memory.pending c'.session).1 = .ok none ∧ Entitled second (T.of 1) := by
  intro first second
  have readable : ∀ m, pendingKey (saved first m) = .ok (some first) :=
    pendingKey_saved (CorrelationKey.made_forKind _ _ _ _).ofText?_toText
  have back : ∀ m, pendingKey (saved second m) = .ok (some second) :=
    pendingKey_saved (CorrelationKey.made_forKind _ _ _ _).ofText?_toText
  -- the first flow saves its key
  have r₀ : Run SessionStore.memory .empty [] _ := .start
  obtain ⟨c₁, r₁, s₁, f₁, o₁⟩ := r₀.begins 0 (.submit ⟨"first", .mintRoot 1⟩) .default 0 rfl
  obtain ⟨c₂, r₂, s₂, f₂, o₂⟩ := r₁.asks 0 (.contract .lastProposalId) (.ok 0) f₁ rfl
  obtain ⟨c₃, r₃, s₃, f₃, o₃⟩ := r₂.asks 0 .stamp (⟨1⟩, .epoch) f₂ rfl
  have empty : pendingKey c₃.session = .ok none := by
    rw [s₃, s₂, s₁]
    exact pendingKey_none rfl
  obtain ⟨c₄, r₄, s₄, f₄, o₄⟩ := r₃.asks 0 (.session (.save first)) (.ok ()) f₃
    (SessionStore.memory_saveKey_ok empty)
  -- then the second one
  have idle : c₄.running 1 = none := by
    rw [o₄ 1 (by decide), o₃ 1 (by decide), o₂ 1 (by decide), o₁ 1 (by decide)]
  obtain ⟨c₅, r₅, s₅, f₅, o₅⟩ := r₄.begins 1 (.submit ⟨"second", .mintRoot 2⟩) .default 0 idle
  obtain ⟨c₆, r₆, s₆, f₆, o₆⟩ := r₅.asks 1 (.contract .lastProposalId) (.ok 0) f₅ rfl
  obtain ⟨c₇, r₇, s₇, f₇, o₇⟩ := r₆.asks 1 .stamp (⟨2⟩, .epoch) f₆ rfl
  have taken : pendingKey c₇.session = .ok (some first) := by
    rw [s₇, s₆, s₅, s₄]
    exact readable _
  obtain ⟨c₈, r₈, s₈, f₈, o₈⟩ := r₇.asks 1 (.session (.save second)) (.ok ()) f₇
    (SessionStore.memory_saveKey_ok taken)
  -- both fail to submit, the first one first
  have sends : c₈.running 0 = c₄.running 0 := by
    rw [o₈ 0 (by decide), o₇ 0 (by decide), o₆ 0 (by decide), o₅ 0 (by decide)]
  obtain ⟨c₉, r₉, s₉, f₉, o₉⟩ := r₈.asks 0 (.contract (.submitProposal ⟨"first", .mintRoot 1⟩))
    (.error .serialization) (sends.trans f₄) rfl
  have replaced : pendingKey c₉.session = .ok (some second) := by
    rw [s₉, s₈]
    exact back _
  obtain ⟨c₁₀, r₁₀, s₁₀, f₁₀, o₁₀⟩ := r₉.asks 0 (.session (.invalidate first.token)) (.ok false) f₉
    (memory_invalidate_other replaced (by decide))
  have waits : c₁₀.running 1 = c₈.running 1 := by
    rw [o₁₀ 1 (by decide), o₉ 1 (by decide)]
  obtain ⟨c₁₁, r₁₁, s₁₁, f₁₁, o₁₁⟩ := r₁₀.asks 1
    (.contract (.submitProposal ⟨"second", .mintRoot 2⟩)) (.error .serialization) (waits.trans f₈) rfl
  have pending : pendingKey c₁₁.session = .ok (some second) := by
    rw [s₁₁, s₁₀]
    exact replaced
  have consumes := Step.asks (.session (.invalidate second.token)) (.ok true) f₁₁
    (SessionStore.memory_invalidate_own pending)
  have shown : ∀ m, (SessionStore.memory.pending m).1 = pendingKey m := by
    intro m
    rw [SessionStore.memory_pending]
  obtain ⟨kept, _⟩ := pending_until_replaced_or_consumed SessionStore.memory_firm r₁₁ consumes
    (fun j call options patience h => by simp at h) (by decide)
    (fun key h => by cases (pendingKey_none rfl).symm.trans ((shown .empty).symm.trans h))
  rcases kept second ((shown _).trans pending) with still | ⟨newer, saves, _⟩ | ⟨_, none, entitled⟩
  · cases ((shown _).trans (pendingKey_consumed second _)).symm.trans still
  · cases saves
  · exact ⟨_, _, _, r₁₁, consumes, by simp, (shown _).trans pending, none, entitled⟩

end Run

end Governance
