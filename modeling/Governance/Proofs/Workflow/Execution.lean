import Governance.Proofs.Correlation.Kinds
import Governance.Proofs.Rpc.Exchanges
import Governance.Proofs.Workflow.Sequence
import Governance.Proofs.Workflow.SharedSession
import Governance.Proofs.Workflow.Submission

/-!
# Submissions that were executed

When sending a submission fails its key is given up (`Workflow.submit_refused`), since nothing was created. But
a failure of the client is not one of the transaction: the node may report that it was executed
(`Rpc.Executed`), and still the client may not be able to read the hash, or what the call returned
(`Rpc.Readable`). Main statement: after a submission that was executed the key is pending exactly if the report
can be read; otherwise an error is returned and the key is gone, though the proposal exists
(`Workflow.submit_executed`).
-/

namespace Governance

open Json

namespace Rpc

/-! ## Reports of the node -/

/-- The status that is reported of a transaction. -/
def reported (v : Value) : Value :=
  (v.get? "status").getD .null

/-- The transaction was executed: its status carries a success value and no failure. -/
structure Executed (v : Value) : Prop where
  success : ((reported v).get? "SuccessValue").isSome
  unfailed : (reported v).get? "Failure" = none

/-- The hash is a text, and so is the success value, which is base 64 of nothing or of JSON. -/
structure Readable (v : Value) : Prop where
  hash : (((v.get? "transaction").bind (·.get? "hash")).bind Value.asString?).isSome
  returned : ∃ encoded value, ((reported v).get? "SuccessValue").bind Value.asString? = some encoded ∧
    returnValue encoded = .ok value

/-- The report on an executed transaction gives an outcome exactly if it can be read. -/
theorem committed_iff_readable {v : Value} (executed : Executed v) (method : String) :
    (∃ outcome, committed method v = .ok outcome) ↔ Readable v := by
  have status : (v.get? "status").getD .null = reported v := rfl
  constructor
  · rintro ⟨outcome, h⟩
    rw [committed] at h
    cases hash : ((v.get? "transaction").bind (·.get? "hash")).bind Value.asString? with
    | none =>
      rw [hash] at h
      cases h
    | some text =>
      rw [hash] at h
      simp only [status, executed.unfailed] at h
      cases success : ((reported v).get? "SuccessValue").bind Value.asString? with
      | none =>
        rw [success] at h
        cases h
      | some encoded =>
        rw [success] at h
        cases returned : returnValue encoded with
        | error e =>
          simp only [returned] at h
          cases h
        | ok value => exact ⟨by rw [hash]; rfl, encoded, value, success, returned⟩
  · rintro ⟨hash, encoded, value, success, returned⟩
    obtain ⟨text, hash⟩ := Option.isSome_iff_exists.1 hash
    refine ⟨⟨text, value⟩, ?_⟩
    rw [committed]
    simp only [hash, status, executed.unfailed, success, returned]
    rfl

end Rpc

/-! ## A contract that executes the submission -/

namespace Rpc

/-- The result of a view that tells that 5 is the next ID. -/
def fiveNext : Value :=
  .object [("result", .array [.nat 53])]

/-- The report that a transaction was executed, with what it returned in base 64. -/
def executedReport (returned : String) : Value :=
  .object [("status", .object [("SuccessValue", .string returned)]),
    ("transaction", .object [("hash", .string "4Fm")])]

theorem executed_executedReport (returned : String) : Executed (executedReport returned) := by
  constructor
  · rfl
  · rfl

theorem result_giving_fiveNext : (Reply.giving fiveNext).result = .ok fiveNext := by
  refine Reply.result_giving ?_ (by decide)
  simp [Value.Regular, Value.RegularMembers, Value.RegularItems, Entries.Sorted, Value.nat, Number.InRange]

theorem result_giving_executedReport (returned : String) :
    (Reply.giving (executedReport returned)).result = .ok (executedReport returned) := by
  have order : "status" < "transaction" := by decide
  refine Reply.result_giving ⟨List.pairwise_pair.2 order, ?_⟩ ?_
  · simp [Value.Regular, Value.RegularMembers, Entries.Sorted]
  · simp [Value.depth, Value.depthMembers, Value.deepest]

end Rpc

namespace Dao

open Rpc

/-- The deployed contract at the end of an endpoint that gives prepared replies. -/
def prepared : Dao (StateM (List Reply)) where
  endpoint := .prepared
  signer := { id := "council.near", sign := fun call => pure call.methodName }
  config := .ofNetwork .testnet "dao.near"

/-- Asking for the next ID, which is 5. -/
def askedNext : Exchange :=
  ⟨requestText 1 "query" (viewParams "dao.near" "get_last_proposal_id" (.record [])), .giving fiveNext⟩

/-- Sending the proposal, which is executed. -/
def sentProposal (returned : String) : Exchange :=
  ⟨requestText 1 "broadcast_tx_commit" (.array [.string "add_proposal"]),
    .giving (executedReport returned)⟩

theorem prepared_lastProposalId (rest : List Reply) :
    prepared.logged.governance.lastProposalId (.giving fiveNext :: rest, []) =
      (.ok 5, (rest, [askedNext])) := by
  have viewed : viewed Decoder.uint64 "get_last_proposal_id" fiveNext = .ok 5 := by decide +kernel
  have call := Endpoint.prepared_call result_giving_fiveNext "query"
    (viewParams "dao.near" "get_last_proposal_id" (.record [])) rest []
  unfold governance
  dsimp only
  unfold Dao.view Endpoint.view
  refine (run_bind_ok call).trans ?_
  rw [viewed, run_liftExcept]
  rfl

theorem prepared_submitProposal (returned : String) (input : ProposalInput) (rest : List Reply)
    (log : List Exchange) :
    prepared.logged.governance.submitProposal input (.giving (executedReport returned) :: rest, log) =
      ((committed "add_proposal" (executedReport returned)).map fun o => o.returnValue.asUInt64?,
        (rest, log ++ [sentProposal returned])) := by
  -- the signer signs with the name of the method, and the text is broadcast
  have signs : ∀ call s, prepared.logged.signer.sign call s = (.ok call.methodName, s) :=
    fun _ _ => rfl
  have sends : prepared.logged.endpoint.broadcast "add_proposal" "add_proposal"
      (.giving (executedReport returned) :: rest, log) =
        (committed "add_proposal" (executedReport returned), (rest, log ++ [sentProposal returned])) := by
    unfold Endpoint.broadcast
    have call := Endpoint.prepared_call (result_giving_executedReport returned) "broadcast_tx_commit"
      (.array [.string "add_proposal"]) rest log
    exact (run_bind_ok call).trans (run_liftExcept _)
  have calls : prepared.logged.call "add_proposal" [("proposal", input.toValue)]
      prepared.logged.config.proposalGas default (.giving (executedReport returned) :: rest, log) = _ :=
    (run_bind_ok (signs _ _)).trans sends
  cases outcome : committed "add_proposal" (executedReport returned) with
  | error e =>
    rw [outcome] at calls
    exact run_bind_error calls
  | ok o =>
    rw [outcome] at calls
    exact run_bind_ok calls

end Dao

namespace Workflow

open Rpc Session

variable {σ τ ρ : Type} {store : SessionStore (StateM τ)} {stamp : StateM ρ (Uuid × Timestamp)}
  {options : ScanOptions} {patience : Nat} {held : τ → StringMap String → Prop}

/-! ## What becomes of a submission -/

/-- A submission either fails before anything is sent, or it has saved its key and goes as the contract answers:
the key stays if the contract takes the proposal, and is consumed if not. -/
theorem submit_cases {contract : GovernanceContract (StateM σ)} (keeps : store.Keeps held)
    {input : ProposalInput} {s : σ} {t : τ} {r : ρ} {outcome : Except Error PendingProposal}
    {w : Setting σ τ ρ}
    (h : (assemble contract store stamp options patience).submit input ⟨s, t, r⟩ = (outcome, w)) :
    w.contract = (contract.lastProposalId s).2 ∨
      ∃ baseline s₁ key m, contract.lastProposalId s = (.ok baseline, s₁) ∧
        key = .forKind baseline input.kind (stamp r).1.1 (stamp r).1.2 ∧
        w.contract = (contract.submitProposal input s₁).2 ∧
        ((∃ id, (contract.submitProposal input s₁).1 = .ok id ∧ outcome = .ok ⟨key, id⟩ ∧
            held w.session (saved key m)) ∨
          ∃ fault, (contract.submitProposal input s₁).1 = .error fault ∧ outcome = .error fault ∧
            held w.session (consumed key (saved key m))) := by
  rcases read : contract.lastProposalId s with ⟨answer, s₁⟩
  have read' : (assemble contract store stamp options patience).contract.lastProposalId ⟨s, t, r⟩ =
      (answer, ⟨s₁, t, r⟩) := Setting.run_contract read
  cases answer with
  | error fault =>
    cases (run_bind_error read').symm.trans h
    exact .inl rfl
  | ok baseline =>
    generalize made : CorrelationKey.forKind baseline input.kind (stamp r).1.1 (stamp r).1.2 = key
    rcases saving : store.saveKey key t with ⟨saves, t₁⟩
    cases saves with
    | error fault =>
      -- the key could not be saved, so nothing is sent
      have run : (assemble contract store stamp options patience).submit input ⟨s, t, r⟩ =
          (.error fault, ⟨s₁, t₁, (stamp r).2⟩) := submit_unsaved read' made.symm saving
      cases run.symm.trans h
      exact .inl rfl
    | ok _ =>
      obtain ⟨m, p, here, readable⟩ := keeps.of_saveKey (congrArg Prod.fst saving)
      rcases sending : contract.submitProposal input s₁ with ⟨answer, s₂⟩
      refine .inr ⟨baseline, s₁, key, m, rfl, made.symm, ?_⟩
      rw [sending]
      cases answer with
      | ok id =>
        obtain ⟨w', run, left, line⟩ := @submit_saves _ _ _ _ _ stamp options patience _ _ keeps.kept
          input ⟨s, t, r⟩ _ here readable _ _ _ _ read sending _ made.symm
        cases run.symm.trans h
        exact ⟨line, .inl ⟨id, rfl, rfl, left⟩⟩
      | error fault =>
        obtain ⟨w', run, left, line⟩ := @submit_refused _ _ _ _ _ stamp options patience _ _ keeps.kept
          input ⟨s, t, r⟩ _ here readable _ _ _ _ read sending _ made.symm
        cases run.symm.trans h
        exact ⟨line, .inr ⟨fault, rfl, rfl, left⟩⟩

/-! ## Executed submissions -/

variable {dao : Dao (StateM σ)}

/-- **An executed submission is remembered exactly if its report can be read.** Submitting sends what it sends
and gets the replies it gets, from any state of the endpoint, of the signer and of the session. If one of the
replies to its broadcast reports that the transaction was executed, its key had been saved. If the report can be
read, the submission succeeds and the key is pending; and if not, it fails with the error of reading, and no key
is pending. -/
theorem submit_executed (keeps : store.Keeps held) {input : ProposalInput} {s : σ} {t : τ} {r : ρ}
    {outcome : Except Error PendingProposal} {w : Setting (σ × List Exchange) τ ρ}
    (h : (assemble dao.logged.governance store stamp options patience).submit input ⟨(s, []), t, r⟩ =
      (outcome, w)) {e : Exchange} (exchanged : e ∈ w.contract.2) (broadcast : IsBroadcast e.request)
    {v : Value} (answered : e.reply.result = .ok v) (executed : Executed v) :
    ∃ baseline key, (dao.governance.lastProposalId s).1 = .ok baseline ∧
      key = .forKind baseline input.kind (stamp r).1.1 (stamp r).1.2 ∧
      (Readable v → ∃ o, committed "add_proposal" v = .ok o ∧
        outcome = .ok ⟨key, o.returnValue.asUInt64?⟩ ∧
        (store.pending w.session).1 = .ok (some key)) ∧
      (¬ Readable v → ∃ fault, committed "add_proposal" v = .error fault ∧ outcome = .error fault ∧
        (store.pending w.session).1 = .ok none) := by
  -- the baseline is read by views, none of which is a broadcast
  obtain ⟨es, asked, views⟩ := dao.logs_lastProposalId s []
  have unsent : e ∉ es := fun mem => (views e mem).not_isBroadcast broadcast
  rcases submit_cases keeps h with line | ⟨baseline, s₁, key, m, read, made, line, final⟩
  · rw [asked] at line
    rw [line] at exchanged
    exact absurd exchanged unsent
  · rw [asked] at read
    obtain ⟨known, rfl⟩ := Prod.mk.inj read
    -- the reply to the broadcast decides what the contract gives
    obtain ⟨es', sent, told⟩ := dao.logs_submitProposal input (dao.governance.lastProposalId s).2 es
    rw [List.nil_append, sent] at line final
    rw [line] at exchanged
    have decided := (told e ((List.mem_append.1 exchanged).resolve_left unsent)).2 v answered
    refine ⟨baseline, key, known, made, ?_⟩
    have pending := pendingKey_saved (CorrelationKey.Made.ofText?_toText ⟨_, _, _, _, made⟩) m
    cases report : committed "add_proposal" v with
    | ok o =>
      rw [report] at decided
      have readable := (committed_iff_readable executed "add_proposal").1 ⟨o, report⟩
      refine ⟨fun _ => ⟨o, rfl, ?_⟩, fun unreadable => absurd readable unreadable⟩
      rcases final with ⟨id, taken, success, left⟩ | ⟨fault, refused, _⟩
      · cases taken.symm.trans decided
        exact ⟨success, (keeps.kept.pending_of_held left).trans pending⟩
      · cases refused.symm.trans decided
    | error fault =>
      rw [report] at decided
      refine ⟨fun readable => ?_, fun _ => ⟨fault, rfl, ?_⟩⟩
      · obtain ⟨o, success⟩ := (committed_iff_readable executed "add_proposal").2 readable
        cases report.symm.trans success
      · rcases final with ⟨id, taken, _⟩ | ⟨fault', refused, failure, left⟩
        · cases taken.symm.trans decided
        · cases refused.symm.trans decided
          exact ⟨failure, (keeps.kept.pending_of_held left).trans (pendingKey_consumed key _)⟩

/-- The contract tells the ID that it gave to the proposal, and the key is pending. -/
theorem executed_with_id_is_pending :
    let key : CorrelationKey := .forKind 5 (.mintRoot 7) ⟨1⟩ .epoch
    let stamp : StateM Unit (Uuid × Timestamp) := pure (⟨1⟩, .epoch)
    ∃ w, (assemble Dao.prepared.logged.governance SessionStore.memory stamp .default 0).submit
        ⟨"mint", .mintRoot 7⟩
        ⟨([.giving fiveNext, .giving (executedReport "NQ==")], []), .empty, ()⟩ =
          (.ok ⟨key, some 5⟩, w) ∧
      Dao.sentProposal "NQ==" ∈ w.contract.2 ∧ Executed (executedReport "NQ==") ∧
      Readable (executedReport "NQ==") ∧
      (SessionStore.memory.pending w.session).1 = .ok (some key) := by
  intro key stamp
  have taken : (committed "add_proposal" (executedReport "NQ==")).map
      (fun o => o.returnValue.asUInt64?) = .ok (some 5) := by decide +kernel
  have sent := Dao.prepared_submitProposal "NQ==" ⟨"mint", .mintRoot 7⟩ [] [Dao.askedNext]
  rw [taken] at sent
  obtain ⟨w, run, _, line⟩ := @submit_saves _ _ _ _ _ stamp .default 0 _ _ SessionStore.memory_keptAs
    ⟨"mint", .mintRoot 7⟩ ⟨_, .empty, ()⟩ _ rfl (pendingKey_none rfl) _ _ _ _
    (Dao.prepared_lastProposalId _) sent key rfl
  have exchanged : Dao.sentProposal "NQ==" ∈ w.contract.2 := by
    rw [line]
    exact List.mem_append_right _ (List.mem_singleton_self _)
  have executed := executed_executedReport "NQ=="
  have readable : Readable (executedReport "NQ==") :=
    ⟨rfl, "NQ==", .nat 5, rfl, by decide +kernel⟩
  refine ⟨w, run, exchanged, executed, readable, ?_⟩
  obtain ⟨baseline, key', known, made, kept, _⟩ := submit_executed SessionStore.memory_keeps run
    exchanged ⟨1, "add_proposal", rfl⟩ (result_giving_executedReport "NQ==") executed
  obtain ⟨o, _, success, pending⟩ := kept readable
  obtain rfl : key = key' := congrArg PendingProposal.key (Except.ok.inj success)
  exact pending

/-- The contract returns something that is not JSON. The proposal exists, but submitting fails, and no key is
pending by which the proposal could be found. -/
theorem executed_but_unread_is_forgotten :
    let stamp : StateM Unit (Uuid × Timestamp) := pure (⟨1⟩, .epoch)
    ∃ w, (assemble Dao.prepared.logged.governance SessionStore.memory stamp .default 0).submit
        ⟨"mint", .mintRoot 7⟩
        ⟨([.giving fiveNext, .giving (executedReport "Pw==")], []), .empty, ()⟩ =
          (.error .serialization, w) ∧
      (∃ e ∈ w.contract.2, IsBroadcast e.request ∧
        ∃ v, e.reply.result = .ok v ∧ Executed v) ∧
      (SessionStore.memory.pending w.session).1 = .ok none := by
  intro stamp
  have unread : (committed "add_proposal" (executedReport "Pw==")).map
      (fun o => o.returnValue.asUInt64?) = .error .serialization := by decide +kernel
  have sent := Dao.prepared_submitProposal "Pw==" ⟨"mint", .mintRoot 7⟩ [] [Dao.askedNext]
  rw [unread] at sent
  obtain ⟨w, run, left, line⟩ := @submit_refused _ _ _ _ _ stamp .default 0 _ _
    SessionStore.memory_keptAs ⟨"mint", .mintRoot 7⟩ ⟨_, .empty, ()⟩ _ rfl (pendingKey_none rfl) _ _ _ _
    (Dao.prepared_lastProposalId _) sent _ rfl
  refine ⟨w, run, ⟨Dao.sentProposal "Pw==", ?_, ⟨1, "add_proposal", rfl⟩, executedReport "Pw==",
    result_giving_executedReport "Pw==", executed_executedReport "Pw=="⟩, ?_⟩
  · rw [line]
    exact List.mem_append_right _ (List.mem_singleton_self _)
  · rw [SessionStore.memory_keptAs.pending_of_held left]
    exact pendingKey_consumed _ _

end Workflow

end Governance
