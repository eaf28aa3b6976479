import Governance.Proofs.Session.Coherence

/-!
# Values that are left behind

The entry that shows a field belongs to the pending key: it is written when the key is saved and removed when the
key is consumed. A key that is replaced is neither. If the newer key is shown in the same entry the value is
overwritten, and otherwise it stays behind, to be seen by people who look at the session. Here a value is stale
(`Session.Stale`) if it is there while no pending key is shown in its entry. A step makes a value stale only by
such a replacement, and only saving a key of the entry ends that (`Stale.step_iff`). Main statement: the entry
is stale after a run exactly if the run left a value behind in it (`Run.stale_iff_leftBehind`).
-/

namespace Governance

open Json

variable {τ : Type} {held : τ → StringMap String → Prop} {store : SessionStore (StateM τ)}

/-! ## Whose entry it is -/

/-- The entry shows the field of some kind. -/
def IsFamilyEntry (entry : String) : Prop :=
  ∃ (tag : KindTag) (path : String), tag.sessionEntry? = some (entry, path)

theorem IsFamilyEntry.ne {entry : String} (family : IsFamilyEntry entry) :
    entry ≠ SessionEntry.lastProposalId ∧ entry ≠ SessionEntry.pendingCorrelation ∧
      entry ≠ SessionEntry.resolvedProposalId := by
  obtain ⟨tag, path, place⟩ := family
  exact Session.sessionEntry?_ne place

theorem CorrelationKey.ShowsIn.isFamilyEntry {key : CorrelationKey} {entry : String}
    (here : key.ShowsIn entry) : IsFamilyEntry entry := by
  obtain ⟨path, place⟩ := here
  exact ⟨key.expectedKind, path, place⟩

/-! ## Stale values -/

/-- The entry holds a value, and no pending key is shown in it. -/
def Session.Stale (entry : String) (m : StringMap String) : Prop :=
  m.get? entry ≠ none ∧ ∀ key, pendingKey m = .ok (some key) → ¬ key.ShowsIn entry

/-! ## What a trace leaves behind -/

/-- The pending key after something happened. -/
def FlowEvent.pendingAfter (e : FlowEvent) (pending : Option CorrelationKey) : Option CorrelationKey :=
  match e.saved?, e.cleared? with
  | some key, _ => some key
  | none, some _ => none
  | none, none => pending

namespace Trace

/-- The key that was saved last, unless a key was consumed since. -/
def pending? (T : Trace) : Option CorrelationKey :=
  T.foldl (fun pending x => x.2.pendingAfter pending) none

theorem pending?_snoc (T : Trace) (i : Nat) (e : FlowEvent) :
    (T ++ [(i, e)]).pending? = e.pendingAfter T.pending? := by
  rw [pending?, List.foldl_append]
  rfl

/-- The pending key, which was shown in the entry, was replaced by one that is not, and no key that is shown there
was saved since. -/
inductive LeftBehind (entry : String) : Trace → Prop
  | replaced {T : Trace} {i : Nat} {old newer : CorrelationKey} (pending : T.pending? = some old)
      (shown : old.ShowsIn entry) (other : ¬ newer.ShowsIn entry) :
    LeftBehind entry (T ++ [(i, .asked (.session (.save newer)) (.ok ()))])
  | still {T : Trace} {i : Nat} {e : FlowEvent} (before : LeftBehind entry T)
      (others : ∀ key, e.saved? = some key → ¬ key.ShowsIn entry) : LeftBehind entry (T ++ [(i, e)])

theorem not_leftBehind_nil (entry : String) : ¬ LeftBehind entry [] := by
  intro h
  generalize same : ([] : Trace) = T at h
  cases h with
  | replaced pending shown other => exact absurd same.symm (List.append_ne_nil_of_right_ne_nil _ (by simp))
  | still before others => exact absurd same.symm (List.append_ne_nil_of_right_ne_nil _ (by simp))

/-- One more step leaves a value behind by a replacement, or leaves what was left behind before. -/
theorem leftBehind_snoc {entry : String} {T : Trace} {i : Nat} {e : FlowEvent} :
    LeftBehind entry (T ++ [(i, e)]) ↔
      (LeftBehind entry T ∨
        ∃ old newer, T.pending? = some old ∧ old.ShowsIn entry ∧ e.saved? = some newer) ∧
      ∀ key, e.saved? = some key → ¬ key.ShowsIn entry := by
  constructor
  · intro h
    generalize same : T ++ [(i, e)] = U at h
    cases h with
    | @replaced T' j old newer pending shown other =>
      obtain ⟨rfl, last⟩ := List.append_inj' same rfl
      cases last
      refine ⟨.inr ⟨old, newer, pending, shown, rfl⟩, fun key saves => ?_⟩
      cases saves
      exact other
    | still before others =>
      obtain ⟨rfl, last⟩ := List.append_inj' same rfl
      cases last
      exact ⟨.inl before, others⟩
  · rintro ⟨before | ⟨old, newer, pending, shown, saves⟩, others⟩
    · exact .still before others
    · have other := others newer saves
      rw [FlowEvent.eq_of_saved? saves]
      exact .replaced pending shown other

/-- Every key that was asked to be saved directly was made for a submission. -/
def Made (T : Trace) : Prop :=
  ∀ i key options patience, (i, .begins (.session (.save key)) options patience) ∈ T → key.Made

theorem Made.before {T : Trace} {i : Nat} {e : FlowEvent} (made : (T ++ [(i, e)]).Made) : T.Made :=
  fun j key options patience h => made j key options patience (List.mem_append_left _ h)

end Trace

namespace Session

variable {T : Trace} {m n : StringMap String} {entry : String} {i : Nat} {e : FlowEvent}

/-- The trace tells which key is pending; it was made for a submission, and its field is shown. -/
structure Tracks (T : Trace) (m : StringMap String) : Prop where
  pending : pendingKey m = .ok T.pending?
  shown : ∀ key, T.pending? = some key → ∀ entry, key.ShowsIn entry → m.get? entry ≠ none

namespace Tracks

theorem start : Tracks [] .empty where
  pending := pendingKey_none rfl
  shown _ h := by cases h

/-- What saves and consumes nothing leaves the pending key and the entries that show fields. -/
theorem quiet (tracks : Tracks T m) (unsaved : e.saved? = none) (uncleared : e.cleared? = none)
    (pending : pendingKey n = pendingKey m)
    (entries : ∀ entry, IsFamilyEntry entry → n.get? entry = m.get? entry) :
    Tracks (T ++ [(i, e)]) n := by
  have same : (T ++ [(i, e)]).pending? = T.pending? := by
    rw [Trace.pending?_snoc, FlowEvent.pendingAfter, unsaved, uncleared]
  constructor
  · rw [same, pending]
    exact tracks.pending
  · rw [same]
    intro key found entry here
    rw [entries entry here.isFamilyEntry]
    exact tracks.shown key found entry here

/-- A step is told by the trace, if a key that it saves was made for a submission. -/
theorem step (tracks : Tracks T m) (changes : e.Changes m n)
    (made : ∀ key, e.saved? = some key → key.Made) : Tracks (T ++ [(i, e)]) n := by
  cases changes with
  | kept unsaved uncleared => exact tracks.quiet unsaved uncleared rfl fun _ _ => rfl
  | recorded unsaved uncleared id =>
    exact tracks.quiet unsaved uncleared (pendingKey_resolved id m)
      fun entry family => get?_resolved_other family.ne.2.2 id m
  | @saved _ _ key saves =>
    obtain ⟨baseline, kind, token, now, rfl⟩ := made key saves
    have newest : (T ++ [(i, e)]).pending? = some (.forKind baseline kind token now) := by
      rw [Trace.pending?_snoc, FlowEvent.pendingAfter, saves]
    constructor
    · rw [newest]
      exact pendingKey_saved (made _ saves).ofText?_toText m
    · rw [newest]
      intro key pending entry here
      cases pending
      obtain ⟨path, place⟩ := here
      obtain ⟨v, field⟩ : ∃ v, (CorrelationKey.forKind baseline kind token now).fields.get? path =
        some v := ProposalKind.fields_of_sessionEntry? place
      rw [get?_saved_shown place, field]
      nofun
  | @cleared key pending clears =>
    have none : (T ++ [(i, e)]).pending? = none := by
      rw [Trace.pending?_snoc, FlowEvent.eq_of_cleared? clears]
      rfl
    constructor
    · rw [none]
      exact pendingKey_consumed key m
    · rw [none]
      exact fun _ h => by cases h

/-- **A step makes a value stale by replacing the key it belongs to.** What was stale stays so until a key of the
entry is saved. -/
theorem stale_step_iff (tracks : Tracks T m) (family : IsFamilyEntry entry) (changes : e.Changes m n)
    (made : ∀ key, e.saved? = some key → key.Made) :
    Stale entry n ↔
      (Stale entry m ∨
        ∃ old newer, T.pending? = some old ∧ old.ShowsIn entry ∧ e.saved? = some newer) ∧
      ∀ key, e.saved? = some key → ¬ key.ShowsIn entry := by
  cases changes with
  | kept unsaved uncleared => simp [unsaved]
  | recorded unsaved uncleared id =>
    rw [Stale, Stale, pendingKey_resolved, get?_resolved_other family.ne.2.2]
    simp [unsaved]
  | @saved _ _ newer saves =>
    have back := pendingKey_saved (made newer saves).ofText?_toText m
    constructor
    · intro stale
      have other := stale.2 newer back
      have present : m.get? entry ≠ none := get?_saved_other family.ne.1 family.ne.2.1 other m ▸ stale.1
      refine ⟨?_, fun key saves' => ?_⟩
      · by_cases mine : ∃ old, T.pending? = some old ∧ old.ShowsIn entry
        · obtain ⟨old, pending, shown⟩ := mine
          exact .inr ⟨old, newer, pending, shown, saves⟩
        · refine .inl ⟨present, fun key pending shown => mine ⟨key, ?_, shown⟩⟩
          exact Except.ok.inj (tracks.pending.symm.trans pending)
      · cases saves.symm.trans saves'
        exact other
    · intro ⟨before, others⟩
      have other := others newer saves
      have present : m.get? entry ≠ none := by
        rcases before with stale | ⟨old, _, pending, shown, _⟩
        · exact stale.1
        · exact tracks.shown old pending entry shown
      refine ⟨(get?_saved_other family.ne.1 family.ne.2.1 other m).symm ▸ present, fun key pending => ?_⟩
      cases back.symm.trans pending
      exact other
  | @cleared key pending clears =>
    have unsaved : e.saved? = none := by
      rw [FlowEvent.eq_of_cleared? clears]
      rfl
    have still : Stale entry (consumed key m) ↔ Stale entry m := by
      by_cases mine : key.ShowsIn entry
      · exact ⟨fun stale => absurd (get?_consumed_shown mine m) stale.1,
          fun stale => absurd mine (stale.2 key pending)⟩
      · rw [Stale, Stale, get?_consumed_other family.ne.2.1 mine]
        refine and_congr_right fun _ => ⟨fun _ other h => ?_, fun _ other h => ?_⟩
        · cases pending.symm.trans h
          exact mine
        · cases (pendingKey_consumed key m).symm.trans h
    rw [still]
    simp [unsaved]

end Tracks

end Session

/-! ## Runs -/

namespace Run

open Session

variable {T : Trace} {entry : String}

theorem saved_made {s₀ : τ} {c c' : Scene τ} {i : Nat} {e : FlowEvent} (run : Run store s₀ T c)
    (last : Step store c i e c') (made : T.Made) {key : CorrelationKey} (saves : e.saved? = some key) :
    key.Made := by
  rcases run.saved_cases last saves with ⟨options, patience, direct⟩ | submitted
  · exact made i key options patience direct
  · exact submitted

theorem tracks {c : Scene (StringMap String)} (run : Run SessionStore.memory .empty T c)
    (made : T.Made) : Tracks T c.session := by
  induction run with
  | start => exact .start
  | step before last ih =>
    exact (ih made.before).step last.changes fun _ saves => before.saved_made last made.before saves

/-- In memory, what is stale was left behind. -/
theorem memory_stale_iff (family : IsFamilyEntry entry) {c : Scene (StringMap String)}
    (run : Run SessionStore.memory .empty T c) (made : T.Made) :
    Stale entry c.session ↔ T.LeftBehind entry := by
  induction run with
  | start =>
    exact ⟨fun stale => absurd rfl stale.1, fun left => absurd left (Trace.not_leftBehind_nil entry)⟩
  | step before last ih =>
    rw [(before.tracks made.before).stale_step_iff family last.changes
      fun _ saves => before.saved_made last made.before saves, Trace.leftBehind_snoc, ih made.before]

/-- **A value stays in the session exactly if its key was replaced.** From the empty session on, flows submit,
resolve, save keys of submissions, give up any tokens, and remember IDs, as operations of a workflow do
(`Operation.flow`), in any order and by turns, and the contract answers as it likes. Then an entry that shows a
field holds a value to which no pending key belongs exactly if a key whose field it showed was replaced, while
it was pending, by a key that is shown elsewhere, and no key that is shown in this entry was saved since.
Consuming keys makes no difference to that. -/
theorem stale_iff_leftBehind (kept : store.KeptAs held) {s₀ : τ} (empty : held s₀ .empty) {c : Scene τ}
    (run : Run store s₀ T c) (made : T.Made) (family : IsFamilyEntry entry) :
    (store.pending c.session).1 = .ok T.pending? ∧
      (((∃ text, (store.get entry c.session).1 = .ok (some text)) ∧
          ∀ key, (store.pending c.session).1 = .ok (some key) → ¬ key.ShowsIn entry) ↔
        T.LeftBehind entry) := by
  obtain ⟨m, left, mirror⟩ := run.mirrored kept empty
  rw [kept.pending_of_held left]
  have text : (store.get entry c.session).1 = .ok (m.get? entry) := by
    obtain ⟨t, same, _⟩ := kept.get entry c.session m left
    rw [same, SessionStore.memory_get]
  refine ⟨(mirror.tracks made).pending, ?_⟩
  rw [← mirror.memory_stale_iff family made, Stale, text, Option.ne_none_iff_exists']
  simp only [Except.ok.injEq]

/-- A key for joining a group is saved, and then one for minting replaces it. -/
theorem role_key_replaced :
    let first : CorrelationKey := .forKind 4 (.addMember "a.near" "editors") ⟨1⟩ .epoch
    let second : CorrelationKey := .forKind 5 (.mintRoot 7) ⟨2⟩ .epoch
    ∃ T c, Run SessionStore.memory .empty T c ∧ T.Made ∧
      T.LeftBehind "group_name_when_registering" ∧
      c.session = saved second (saved first .empty) ∧ c.running 2 = none := by
  intro first second
  have r₀ : Run SessionStore.memory .empty [] _ := .start
  obtain ⟨c₁, r₁, s₁, f₁, o₁⟩ := r₀.begins 0 (.session (.save first)) .default 0 rfl
  have empty : pendingKey c₁.session = .ok none := by
    rw [s₁]
    exact pendingKey_none rfl
  obtain ⟨c₂, r₂, s₂, f₂, o₂⟩ := r₁.asks 0 (.session (.save first)) (.ok ()) f₁
    (SessionStore.memory_saveKey_ok empty)
  have idle : ∀ j ≠ 0, c₂.running j = none := by
    intro j other
    rw [o₂ j other, o₁ j other]
  obtain ⟨c₃, r₃, s₃, f₃, o₃⟩ := r₂.begins 1 (.session (.save second)) .default 0
    (idle 1 (by decide))
  have taken : pendingKey c₃.session = .ok (some first) := by
    rw [s₃, s₂]
    exact pendingKey_saved (CorrelationKey.made_forKind _ _ _ _).ofText?_toText _
  obtain ⟨c₄, r₄, s₄, f₄, o₄⟩ := r₃.asks 1 (.session (.save second)) (.ok ()) f₃
    (SessionStore.memory_saveKey_ok taken)
  refine ⟨_, c₄, r₄, ?_, ?_, by rw [s₄, s₃, s₂, s₁], ?_⟩
  · intro i key options patience direct
    simp only [List.nil_append, List.mem_append, List.mem_singleton, Prod.mk.injEq,
      FlowEvent.begins.injEq, Operation.session.injEq, SessionCall.save.injEq] at direct
    rcases direct with ((⟨_, rfl, _⟩ | ⟨_, h⟩) | ⟨_, rfl, _⟩) | ⟨_, h⟩
    · exact ⟨_, _, _, _, rfl⟩
    · cases h
    · exact ⟨_, _, _, _, rfl⟩
    · cases h
  · have shown : first.ShowsIn "group_name_when_registering" := ⟨"role", rfl⟩
    refine .replaced ?_ shown ?_
    · rfl
    · intro ⟨path, place⟩
      have same : "in_progress_id" = "group_name_when_registering" :=
        (Prod.mk.inj (Option.some.inj place)).1
      exact absurd same (by decide)
  · rw [o₄ 2 (by decide), o₃ 2 (by decide), idle 2 (by decide)]

/-- The name of the group is still there while the minting is pending. -/
theorem stale_while_other_pending :
    ∃ T c, Run SessionStore.memory .empty T c ∧ T.Made ∧
      T.LeftBehind "group_name_when_registering" ∧
      (∃ text, (SessionStore.memory.get "group_name_when_registering" c.session).1 =
        .ok (some text)) ∧
      ∀ key, (SessionStore.memory.pending c.session).1 = .ok (some key) →
        ¬ key.ShowsIn "group_name_when_registering" := by
  obtain ⟨T, c, run, made, left, _⟩ := role_key_replaced
  obtain ⟨_, stale⟩ := stale_iff_leftBehind SessionStore.memory_keptAs rfl run made
    ⟨.addMember, "role", rfl⟩
  exact ⟨T, c, run, made, left, stale.2 left⟩

/-- The minting is given up, and no key is pending, but the name of the group is still there. -/
theorem group_name_outlives_keys :
    ∃ T c, Run SessionStore.memory .empty T c ∧ T.Made ∧
      (SessionStore.memory.pending c.session).1 = .ok none ∧
      (SessionStore.memory.get "group_name_when_registering" c.session).1 = .ok (some "editors") := by
  obtain ⟨T, c, run, made, _, session, idle⟩ := role_key_replaced
  obtain ⟨c₁, r₁, s₁, f₁, _⟩ := run.begins 2 (.session (.invalidate ⟨2⟩)) .default 0 idle
  have pending : pendingKey c₁.session = .ok (some (.forKind 5 (.mintRoot 7) ⟨2⟩ .epoch)) := by
    rw [s₁, session]
    exact pendingKey_saved (CorrelationKey.made_forKind _ _ _ _).ofText?_toText _
  obtain ⟨c₂, r₂, s₂, _, _⟩ := r₁.asks 2 (.session (.invalidate ⟨2⟩)) (.ok true) f₁
    (SessionStore.memory_invalidate_own pending)
  refine ⟨_, c₂, r₂, ?_, ?_, ?_⟩
  · intro i key options patience direct
    have earlier : (i, .begins (.session (.save key)) options patience) ∈ T := by
      simpa using direct
    exact made i key options patience earlier
  · rw [SessionStore.memory_pending, s₂]
    exact pendingKey_consumed _ _
  · rw [s₂, s₁, session]
    rfl

end Run

end Governance
