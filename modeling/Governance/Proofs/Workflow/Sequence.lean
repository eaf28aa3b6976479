import Governance.Proofs.Workflow.Interleaving
import Governance.Proofs.Workflow.Setting

/-!
# Operations one after the other

A program that carries its operations out one by one is a special case of flows by turns: nobody else takes a
turn. Here a workflow works on a contract, a session and a source of stamps that have nothing in common
(`Workflow.assemble`). What is done to the session by an operation is then done to it alone
(`SessionStore.run_call`). Main statement: carrying an operation out leaves the session that a run of its flow leaves,
with any contract and after anything that happened before (`Run.perform`). So what holds of every run holds
of every sequence of operations.
-/

namespace Governance

variable {σ τ ρ α β : Type}

/-! ## What is done to the session -/

/-- An action on the session, as an action on the whole setting. -/
def Setting.onSession (x : ExceptT Error (StateM τ) α) : ExceptT Error (StateM (Setting σ τ ρ)) α :=
  ExceptT.mk (zoom session (fun t w => { w with session := t }) x.run)

theorem Setting.onSession_bind (x : ExceptT Error (StateM τ) α)
    (f : α → ExceptT Error (StateM τ) β) :
    (onSession (x >>= f) : ExceptT Error (StateM (Setting σ τ ρ)) β) =
      onSession x >>= fun a => onSession (f a) := by
  funext w
  rcases first : x w.session with ⟨outcome, t⟩
  have alone : (onSession x : ExceptT Error (StateM (Setting σ τ ρ)) α) w =
      (outcome, { w with session := t }) := run_session first
  cases outcome with
  | error e =>
    rw [run_bind_error alone]
    exact run_session (run_bind_error first)
  | ok a =>
    rw [run_bind_ok alone]
    exact run_session (run_bind_ok first)

namespace SessionStore

variable {store : SessionStore (StateM τ)}

open Setting

theorem onSetting_pending :
    (store.onSetting : SessionStore (StateM (Setting σ τ ρ))).pending = onSession store.pending := by
  rw [SessionStore.pending, SessionStore.pending, onSession_bind]
  refine bind_congr fun text => ?_
  cases text with
  | none => rfl
  | some raw =>
    dsimp only
    cases CorrelationKey.ofText? raw <;> rfl

theorem onSetting_showField (key : CorrelationKey) :
    (store.onSetting : SessionStore (StateM (Setting σ τ ρ))).showField key =
      onSession (store.showField key) := by
  rw [SessionStore.showField, SessionStore.showField]
  cases key.expectedKind.sessionEntry? with
  | none => rfl
  | some place =>
    dsimp only
    cases key.fields.get? place.2 <;> rfl

/-- A call to the session works on the session as it does alone. -/
theorem onSetting_call (call : SessionCall) :
    call.perform (store.onSetting : SessionStore (StateM (Setting σ τ ρ))).session =
      onSession (call.perform store.session) := by
  cases call with
  | save key =>
    show store.onSetting.saveKey key = onSession (store.saveKey key)
    rw [SessionStore.saveKey, SessionStore.saveKey, onSession_bind, onSetting_pending]
    refine bind_congr fun _ => ?_
    rw [onSession_bind]
    refine bind_congr fun _ => ?_
    rw [onSession_bind, onSetting_showField]
    rfl
  | load =>
    show store.onSetting.loadKey = onSession store.loadKey
    rw [SessionStore.loadKey, SessionStore.loadKey, onSession_bind, onSetting_pending]
    refine bind_congr fun pending => ?_
    cases pending <;> rfl
  | invalidate token =>
    show store.onSetting.invalidate token = onSession (store.invalidate token)
    rw [SessionStore.invalidate, SessionStore.invalidate, onSession_bind, onSetting_pending]
    refine bind_congr fun pending => ?_
    cases pending with
    | none => rfl
    | some key =>
      dsimp only
      split
      · rw [onSession_bind]
        refine bind_congr fun _ => ?_
        cases key.expectedKind.sessionEntry? with
        | none => rfl
        | some place => exact (onSession_bind (store.remove place.1) fun _ => pure true).symm
      · rfl
  | record id => rfl

/-- A call to the session does to the setting what it does to the session. -/
theorem run_call (call : SessionCall) {w : Setting σ τ ρ} {answer : Except Error call.Answer} {t : τ}
    (h : call.perform store.session w.session = (answer, t)) :
    call.perform store.onSetting.session w = (answer, { w with session := t }) := by
  rw [onSetting_call]
  exact Setting.run_session h

end SessionStore

namespace Workflow

variable {contract : GovernanceContract (StateM σ)} {store : SessionStore (StateM τ)}
  {stamp : StateM ρ (Uuid × Timestamp)} {options : ScanOptions} {patience : Nat}

/-- What is asked and answered leaves the session as it may be left. -/
theorem answered_of_perform {request : Request} {w w' : Setting σ τ ρ} {answer : request.Answer}
    (h : request.perform (assemble contract store stamp options patience) w = (answer, w')) :
    request.Answered store answer w.session w'.session := by
  cases request with
  | contract request =>
    cases request <;> exact (congrArg (fun r => r.2.session) h).symm
  | session call =>
    rcases alone : call.perform store.session w.session with ⟨outcome, t⟩
    have whole : call.perform (assemble contract store stamp options patience).session w =
        (outcome, { w with session := t }) := SessionStore.run_call call alone
    cases whole.symm.trans h
    exact alone
  | stamp => exact (congrArg (fun r => r.2.session) h).symm

end Workflow

/-! ## An operation as a run -/

namespace Run

variable {contract : GovernanceContract (StateM σ)} {store : SessionStore (StateM τ)}
  {stamp : StateM ρ (Uuid × Timestamp)} {options : ScanOptions} {patience : Nat} {s₀ : τ}
  {running : Nat → Option (Flow (Except Error OperationResult))} {i : Nat}

open Workflow

/-- What is left of a flow can be performed step by step. -/
theorem perform_rest {x : Flow (Except Error OperationResult)} {T : Trace} {w w' : Setting σ τ ρ}
    {outcome : Except Error OperationResult}
    (run : Run store s₀ T ⟨w.session, Function.update running i (some x)⟩)
    (h : x.perform (assemble contract store stamp options patience) w = (outcome, w')) :
    ∃ asked : List FlowEvent,
      Run store s₀ (T ++ asked.map (Prod.mk i) ++ [(i, .ends outcome)])
        ⟨w'.session, Function.update running i none⟩ := by
  induction x generalizing T w with
  | done a =>
    cases h
    refine ⟨[], ?_⟩
    rw [List.map_nil, List.append_nil]
    have ends := run.step (.ends (Function.update_self i _ running))
    rw [Function.update_idem] at ends
    exact ends
  | ask request resume ih =>
    rcases answered : request.perform (assemble contract store stamp options patience) w with
      ⟨answer, w₁⟩
    have rest : (resume answer).perform (assemble contract store stamp options patience) w₁ =
        (outcome, w') := by
      rw [← h]
      exact (congrArg (fun r : request.Answer × Setting σ τ ρ =>
        (resume r.1).perform (assemble contract store stamp options patience) r.2) answered).symm
    have asks := run.step
      (.asks request answer (Function.update_self i _ running) (answered_of_perform answered))
    rw [Function.update_idem] at asks
    obtain ⟨asked, all⟩ := ih answer asks rest
    refine ⟨.asked request answer :: asked, ?_⟩
    rw [List.map_cons, List.append_cons T]
    exact all

/-- **Carrying an operation out is a run of its flow.** Whatever happened before, if the flow is idle, the
operation leaves the session as a run does in which only this flow takes turns, from the beginning of the
operation to its end. -/
theorem perform {T : Trace} {w : Setting σ τ ρ} (run : Run store s₀ T ⟨w.session, running⟩)
    (idle : running i = none) (op : Operation) :
    ∃ asked : List FlowEvent,
      Run store s₀
        (T ++ (i, .begins op options patience) :: asked.map (Prod.mk i) ++
          [(i, .ends (op.perform (assemble contract store stamp options patience) w).1)])
        ⟨(op.perform (assemble contract store stamp options patience) w).2.session, running⟩ := by
  have carried : (op.flow options patience).run.perform (assemble contract store stamp options patience)
      w = op.perform (assemble contract store stamp options patience) w :=
    congrFun (Operation.carry_flow (assemble contract store stamp options patience) op) w
  obtain ⟨asked, all⟩ := perform_rest (run.step (.begins idle op options patience)) carried
  refine ⟨asked, ?_⟩
  rw [← idle, Function.update_eq_self] at all
  rw [List.append_cons T]
  exact all

end Run

end Governance
