import Governance.Proofs.Correlation.Kinds
import Governance.Proofs.Correlation.Reading
import Governance.Proofs.Workflow.SharedSession

/-!
# Entries that agree

What a session remembers of a submission is spread over entries: the key, its baseline, and the field that is
shown. They are written one after the other when a key is saved, and removed one after the other when it is
consumed. They agree (`Session.Coherent`) in the empty session, every step of a flow keeps them so
(`Coherent.step`), and hence they agree in every run in which no key with a double is saved. Main statement:
whenever a key is pending, the baseline is its own and the entry of its kind shows its field, which for a
submission is the one in the payload (`Run.coherent`).
-/

namespace Governance

open Json

variable {τ : Type} {held : τ → StringMap String → Prop} {store : SessionStore (StateM τ)}

/-! ## Fields that are shown -/

namespace ProposalKind

/-- The key of a submission has the field that the session shows. -/
theorem fields_of_sessionEntry? {kind : ProposalKind} {entry path : String}
    (shown : kind.tag.sessionEntry? = some (entry, path)) : ∃ v, kind.fields.get? path = some v := by
  cases kind with
  | payoutRevenue treeIndexes => cases shown
  | createRevenueTable rootId contract table price =>
    cases shown
    exact ⟨.string rootId, StringMap.get?_ofList (by simp) (by simp)⟩
  | _ =>
    cases shown
    exact ⟨_, StringMap.get?_ofList List.mem_cons_self (by simp)⟩

end ProposalKind

namespace Session

variable {m n : StringMap String} {key : CorrelationKey}

/-! ## Entries that agree -/

/-- The pending text is that of a key without doubles, the baseline is that of the key, and the entry of its kind
shows its field. -/
def Coherent (m : StringMap String) : Prop :=
  ∀ raw, m.get? SessionEntry.pendingCorrelation = some raw →
    ∃ key : CorrelationKey, key.fields.Regular ∧ raw = key.toText ∧
      m.get? SessionEntry.lastProposalId = some (idText key.baseline) ∧
      ∀ entry path, key.expectedKind.sessionEntry? = some (entry, path) →
        m.get? entry = (key.fields.get? path).map Value.shown

namespace Coherent

theorem empty : Coherent .empty :=
  fun _ h => by cases h

theorem saved (regular : key.fields.Regular) (m : StringMap String) : Coherent (saved key m) := by
  intro raw h
  obtain rfl : key.toText = raw := Option.some.inj ((get?_saved_pending key m).symm.trans h)
  exact ⟨key, regular, rfl, get?_saved_last key m, fun _ _ here => get?_saved_shown here m⟩

theorem consumed (key : CorrelationKey) (m : StringMap String) : Coherent (consumed key m) := by
  intro raw h
  cases (get?_consumed_pending key m).symm.trans h

/-- The entry for the proposal that was found last is none of those that have to agree. -/
theorem resolved (coherent : Coherent m) (id : UInt64) : Coherent (resolved id m) := by
  intro raw h
  rw [Session.resolved, StringMap.get?_insert, if_neg (by decide)] at h
  obtain ⟨key, regular, text, last, shown⟩ := coherent raw h
  refine ⟨key, regular, text, ?_, fun entry path here => ?_⟩
  · rw [Session.resolved, StringMap.get?_insert, if_neg (by decide)]
    exact last
  · rw [Session.resolved, StringMap.get?_insert, if_neg (sessionEntry?_ne here).2.2]
    exact shown entry path here

/-- **A step keeps the entries in agreement**, if a key that it saves has no doubles. -/
theorem step (coherent : Coherent m) {e : FlowEvent} (changes : e.Changes m n)
    (regular : ∀ key, e.saved? = some key → key.fields.Regular) : Coherent n := by
  cases changes with
  | kept unsaved uncleared => exact coherent
  | recorded unsaved uncleared id => exact coherent.resolved id
  | saved readable saves => exact saved (regular _ saves) m
  | cleared pending clears => exact consumed _ m

/-- What agrees with the key that is read as the pending one. -/
theorem of_pending (coherent : Coherent m) (pending : pendingKey m = .ok (some key)) :
    m.get? SessionEntry.lastProposalId = some (idText key.baseline) ∧
      ∀ entry path, key.expectedKind.sessionEntry? = some (entry, path) →
        m.get? entry = (key.fields.get? path).map Value.shown := by
  unfold pendingKey at pending
  split at pending
  · cases pending
  · next raw held =>
    split at pending
    · next read back =>
      cases pending
      obtain ⟨written, regular, rfl, agrees⟩ := coherent raw held
      obtain rfl := CorrelationKey.eq_of_ofText?_toText regular back
      exact agrees
    · cases pending

end Coherent

end Session

/-! ## Runs -/

/-- In a run every key is saved by its submission, or because it was asked for directly. -/
theorem Run.saved_cases {s₀ : τ} {T : Trace} {c c' : Scene τ} {i : Nat} {e : FlowEvent}
    (run : Run store s₀ T c) (last : Step store c i e c') {key : CorrelationKey}
    (saves : e.saved? = some key) :
    (∃ options patience, (i, .begins (.session (.save key)) options patience) ∈ T) ∨ key.Made := by
  obtain rfl := FlowEvent.eq_of_saved? saves
  rcases (run.due last).save_cases with ⟨options, patience, direct⟩ | ⟨_, now, _, baseline, kind, made⟩
  · exact .inl ⟨options, patience, Trace.mem_of.1 direct⟩
  · exact .inr ⟨baseline, kind, key.token, now, made⟩

/-- No key with a double was asked to be saved directly. -/
def Trace.Regular (T : Trace) : Prop :=
  ∀ i key options patience, (i, .begins (.session (.save key)) options patience) ∈ T →
    key.fields.Regular

theorem Trace.Regular.before {T : Trace} {i : Nat} {e : FlowEvent}
    (regular : (T ++ [(i, e)]).Regular) : T.Regular :=
  fun j key options patience h => regular j key options patience (List.mem_append_left _ h)

namespace Run

variable {T : Trace}

/-- The entries agree in every run from the empty session. -/
theorem memory_coherent {c : Scene (StringMap String)} (run : Run SessionStore.memory .empty T c)
    (regular : T.Regular) : Session.Coherent c.session := by
  induction run with
  | start => exact .empty
  | @step T c c' i e before last ih =>
    refine (ih regular.before).step last.changes fun key saves => ?_
    rcases before.saved_cases last saves with ⟨options, patience, direct⟩ | ⟨_, kind, _, _, rfl⟩
    · exact regular.before i key options patience direct
    · exact kind.plain_fields.regular

/-- **The entries of a session agree.** From the empty session on, flows submit, resolve, save keys without
doubles, give up any tokens, and remember IDs, as operations of a workflow do (`Operation.flow`), in any order and
by turns, and the contract answers as it likes.
Whenever a key is pending, the baseline of the last submission is that of the key, and the entry of its kind
shows its field, or is absent if the key has no such field. If the key was made for a submission, the entry is
present, and shows what the payload of the submission holds under the same path. -/
theorem coherent (kept : store.KeptAs held) {s₀ : τ} (empty : held s₀ .empty) {c : Scene τ}
    (run : Run store s₀ T c) (regular : T.Regular) {key : CorrelationKey}
    (pending : (store.pending c.session).1 = .ok (some key)) :
    (store.lastProposalId c.session).1 = .ok (some key.baseline) ∧
      ∀ entry path, key.expectedKind.sessionEntry? = some (entry, path) →
        (store.get entry c.session).1 = .ok ((key.fields.get? path).map Value.shown) ∧
        ∀ baseline kind token now, key = .forKind baseline kind token now →
          ∃ v, Fields.lookup kind.payload path = some v ∧
            (store.get entry c.session).1 = .ok (some v.shown) := by
  obtain ⟨m, left, mirror⟩ := run.mirrored kept empty
  rw [kept.pending_of_held left] at pending
  obtain ⟨last, shown⟩ := (mirror.memory_coherent regular).of_pending pending
  have text : ∀ name, (store.get name c.session).1 = .ok (m.get? name) := by
    intro name
    obtain ⟨t, same, _⟩ := kept.get name c.session m left
    rw [same, SessionStore.memory_get]
  constructor
  · obtain ⟨t, same, _⟩ := kept.getId SessionEntry.lastProposalId c.session m left
    rw [SessionStore.lastProposalId, same, SessionStore.memory_getId, Session.idUnder]
    simp only [last, readId_idText]
  · intro entry path here
    refine ⟨by rw [text, shown entry path here], fun baseline kind token now made => ?_⟩
    subst made
    obtain ⟨v, field⟩ := ProposalKind.fields_of_sessionEntry? here
    refine ⟨v, ProposalKind.lookup_payload field, ?_⟩
    rw [text, shown entry path here]
    exact congrArg (fun w => Except.ok (Option.map Value.shown w)) field

/-- A submission has saved its key: the baseline and the ID of its kind are there to be read. -/
theorem coherent_after_save :
    let key : CorrelationKey := .forKind 5 (.mintRoot 7) ⟨1⟩ .epoch
    ∃ T c, Run SessionStore.memory .empty T c ∧ T.Regular ∧
      (SessionStore.memory.pending c.session).1 = .ok (some key) ∧
      (SessionStore.memory.lastProposalId c.session).1 = .ok (some 5) ∧
      (SessionStore.memory.get "in_progress_id" c.session).1 = .ok (some "7") := by
  intro key
  have r₀ : Run SessionStore.memory .empty [] _ := .start
  obtain ⟨c₁, r₁, s₁, f₁, _⟩ := r₀.begins 0 (.submit ⟨"mint", .mintRoot 7⟩) .default 0 rfl
  obtain ⟨c₂, r₂, s₂, f₂, _⟩ := r₁.asks 0 (.contract .lastProposalId) (.ok 5) f₁ rfl
  obtain ⟨c₃, r₃, s₃, f₃, _⟩ := r₂.asks 0 .stamp (⟨1⟩, .epoch) f₂ rfl
  have empty : Session.pendingKey c₃.session = .ok none := by
    rw [s₃, s₂, s₁]
    exact Session.pendingKey_none rfl
  obtain ⟨c₄, r₄, s₄, _, _⟩ := r₃.asks 0 (.session (.save key)) (.ok ()) f₃
    (SessionStore.memory_saveKey_ok empty)
  have pending : (SessionStore.memory.pending c₄.session).1 = .ok (some key) := by
    rw [SessionStore.memory_pending, s₄]
    exact Session.pendingKey_saved (CorrelationKey.made_forKind _ _ _ _).ofText?_toText _
  obtain ⟨T, run, regular⟩ : ∃ T, Run SessionStore.memory .empty T c₄ ∧ T.Regular :=
    ⟨_, r₄, fun i key options patience h => by simp at h⟩
  obtain ⟨last, shown⟩ := coherent SessionStore.memory_keptAs rfl run regular pending
  exact ⟨T, c₄, run, regular, pending, last, (shown "in_progress_id" "id" rfl).1⟩

end Run

end Governance
