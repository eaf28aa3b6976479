import Governance.Workflow

/-!
# Workflows request by request

An operation of a workflow deals with the world by requests: to the contract, to the session, and for a stamp.
A flow (`Flow`) is a computation that has come to its next request and waits for the answer, so several of
them can go on by turns. Flows are a monad, and in it there is a workflow whose contract, session and stamps are
requests (`Flow.workflow`); the flow of an operation is the operation on this workflow. What an operation asks
for does not depend on who answers: for every workflow, in any lawful monad, performing the requests of the
flow one after the other is performing the operation (`Operation.carry_flow`).
-/

namespace Governance

/-! ## Requests -/

/-- What is asked of the contract. -/
inductive ContractRequest
  | submitProposal (input : ProposalInput)
  | lastProposalId
  | listProposals (fromIndex limit : UInt64)
  | vote (id : UInt64) (action : ProposalAction)

/-- What the contract answers, unless it fails. -/
abbrev ContractRequest.Answer : ContractRequest → Type
  | submitProposal _ => Option UInt64
  | lastProposalId => UInt64
  | listProposals _ _ => List Proposal
  | vote _ _ => VoteOutcome

/-- What is asked of the session. -/
inductive SessionCall
  | save (key : CorrelationKey)
  | load
  | invalidate (token : Uuid)
  | record (id : UInt64)

/-- What the session answers, unless it fails. -/
abbrev SessionCall.Answer : SessionCall → Type
  | save _ => Unit
  | load => CorrelationKey
  | invalidate _ => Bool
  | record _ => Unit

/-- What a workflow asks for. -/
inductive Request
  | contract (request : ContractRequest)
  | session (call : SessionCall)
  /-- A token that was not used before, and the time. -/
  | stamp

/-- What is answered. -/
abbrev Request.Answer : Request → Type
  | contract request => Except Error request.Answer
  | session call => Except Error call.Answer
  | stamp => Uuid × Timestamp

section

variable {m : Type → Type} [Monad m]

/-- Asks a contract. -/
def ContractRequest.perform (contract : GovernanceContract m) :
    (request : ContractRequest) → ExceptT Error m request.Answer
  | submitProposal input => contract.submitProposal input
  | lastProposalId => contract.lastProposalId
  | listProposals fromIndex limit => contract.listProposals fromIndex limit
  | vote id action => contract.vote id action

/-- Asks a session. -/
def SessionCall.perform (session : PersistedSession m) :
    (call : SessionCall) → ExceptT Error m call.Answer
  | save key => session.saveKey key
  | load => session.loadKey
  | invalidate token => session.invalidate token
  | record id => session.recordResolved id

/-- Asks the part of a workflow that a request is meant for. -/
def Request.perform (w : Workflow m) : (request : Request) → m request.Answer
  | contract request => (request.perform w.contract).run
  | session call => (call.perform w.session).run
  | stamp => w.stamp

end

/-! ## Operations -/

/-- What a program does with a workflow: submit, find what is pending, both in one, or use the session
directly. -/
inductive Operation
  | submit (input : ProposalInput)
  | resolvePending
  | submitAndResolve (input : ProposalInput)
  | session (call : SessionCall)

/-- What an operation gives. -/
inductive OperationResult
  | submitted (pending : PendingProposal)
  | resolved (id : UInt64)
  | answered {call : SessionCall} (answer : call.Answer)

/-- Carries an operation out. -/
def Operation.perform {m : Type → Type} [Monad m] (w : Workflow m) :
    Operation → ExceptT Error m OperationResult
  | submit input => do return .submitted (← w.submit input)
  | resolvePending => do return .resolved (← w.resolvePending)
  | submitAndResolve input => do return .resolved (← w.submitAndResolve input)
  | session call => do return .answered (← call.perform w.session)

/-! ## Flows -/

/-- A computation that is done, or waits for an answer. -/
inductive Flow (α : Type) : Type
  | done (a : α)
  | ask (request : Request) (resume : request.Answer → Flow α)

namespace Flow

variable {α β : Type}

/-- Goes on with what a flow gives. -/
def bind : Flow α → (α → Flow β) → Flow β
  | done a, f => f a
  | ask request resume, f => ask request fun answer => (resume answer).bind f

instance : Monad Flow where
  pure := done
  bind := bind

/-- The contract to which all calls are requests. -/
def contract : GovernanceContract Flow where
  submitProposal input := ExceptT.mk (ask (.contract (.submitProposal input)) done)
  lastProposalId := ExceptT.mk (ask (.contract .lastProposalId) done)
  listProposals fromIndex limit :=
    ExceptT.mk (ask (.contract (.listProposals fromIndex limit)) done)
  vote id action := ExceptT.mk (ask (.contract (.vote id action)) done)

/-- The session to which all calls are requests. -/
def session : PersistedSession Flow where
  saveKey key := ExceptT.mk (ask (.session (.save key)) done)
  loadKey := ExceptT.mk (ask (.session .load) done)
  invalidate token := ExceptT.mk (ask (.session (.invalidate token)) done)
  recordResolved id := ExceptT.mk (ask (.session (.record id)) done)

/-- The workflow whose parts are requests. -/
def workflow (options : ScanOptions) (patience : Nat) : Workflow Flow :=
  ⟨contract, session, options, patience, ask .stamp done⟩

/-! ## Performing a flow -/

variable {m : Type → Type} [Monad m] (w : Workflow m)

/-- Performs the requests of a flow, one after the other. -/
def perform : Flow α → m α
  | done a => pure a
  | ask request resume => do perform (resume (← request.perform w))

/-- Performs a flow that may fail. -/
def carry (x : ExceptT Error Flow α) : ExceptT Error m α :=
  ExceptT.mk (x.run.perform w)

theorem carry_liftExcept (outcome : Except Error α) :
    carry w (liftExcept outcome) = liftExcept outcome := by
  cases outcome <;> rfl

variable [LawfulMonad m]

theorem perform_bind (x : Flow α) (f : α → Flow β) :
    (x >>= f).perform w = x.perform w >>= fun a => (f a).perform w := by
  induction x with
  | done a => exact (pure_bind a fun a => (f a).perform w).symm
  | ask request resume ih =>
    show request.perform w >>= (fun answer => (resume answer >>= f).perform w) = _
    rw [perform, bind_assoc]
    exact bind_congr ih

theorem perform_ask (request : Request) : (ask request done).perform w = request.perform w :=
  bind_pure _

theorem carry_bind (x : ExceptT Error Flow α) (f : α → ExceptT Error Flow β) :
    carry w (x >>= f) = carry w x >>= fun a => carry w (f a) := by
  show (x.run >>= ExceptT.bindCont f).perform w =
    x.run.perform w >>= ExceptT.bindCont fun a => carry w (f a)
  rw [perform_bind]
  refine bind_congr fun outcome => ?_
  cases outcome <;> rfl

theorem carry_tryCatch (x : ExceptT Error Flow α) (handle : Error → ExceptT Error Flow α) :
    carry w (ExceptT.tryCatch x handle) =
      ExceptT.tryCatch (carry w x) fun e => carry w (handle e) := by
  show Flow.perform w (x.run >>= _) = x.run.perform w >>= _
  rw [perform_bind]
  refine bind_congr fun outcome => ?_
  cases outcome <;> rfl

theorem carry_lift (x : Flow α) : carry w (ExceptT.lift x) = ExceptT.lift (x.perform w) := by
  show Flow.perform w (x >>= fun a => pure (Except.ok a)) = Except.ok <$> x.perform w
  rw [perform_bind, map_eq_pure_bind]
  rfl

theorem carry_contract (request : ContractRequest) :
    carry w (ExceptT.mk (ask (.contract request) done)) = request.perform w.contract :=
  perform_ask w _

theorem carry_session (call : SessionCall) :
    carry w (call.perform session) = call.perform w.session := by
  cases call <;> exact perform_ask w _

/-! ## What is carried over -/

theorem carry_scanPages (options : ScanOptions) (key : CorrelationKey) (start : UInt64) (pages : Nat)
    (isFirst : Bool) (index : UInt64) (scanned : Nat) :
    carry w (contract.scanPages options key start pages isFirst index scanned) =
      w.contract.scanPages options key start pages isFirst index scanned := by
  induction pages generalizing isFirst index scanned with
  | zero => rfl
  | succ pages ih =>
    rw [GovernanceContract.scanPages, GovernanceContract.scanPages, carry_bind]
    have page : carry w (contract.listProposals index options.pageSize) =
        w.contract.listProposals index options.pageSize := carry_contract w _
    rw [page]
    refine bind_congr fun page => ?_
    cases GovernanceContract.verdict options key start isFirst scanned page with
    | some outcome => exact carry_liftExcept w outcome
    | none => exact ih _ _ _

theorem carry_attempts (admits : Error → Bool) (exhausted : Error) (x : ExceptT Error Flow α)
    (left : Nat) : carry w (attempts admits exhausted x left) =
      attempts admits exhausted (carry w x) left := by
  induction left with
  | zero =>
    rw [attempts, attempts, carry_tryCatch]
    rfl
  | succ left ih =>
    rw [attempts, attempts, carry_tryCatch]
    congr 1
    funext e
    cases admits e with
    | true => exact ih
    | false => rfl

theorem carry_resolve (options : ScanOptions) (patience : Nat) (key : CorrelationKey) :
    carry w (contract.resolve options patience key) = w.contract.resolve options patience key := by
  rw [GovernanceContract.resolve, pollUntil, carry_attempts]
  congr 1
  exact carry_scanPages w options key _ _ _ _ _

variable {options : ScanOptions} {patience : Nat}

/-- Performing the requests of a submission is submitting. -/
theorem carry_submit (input : ProposalInput) :
    carry w ((workflow options patience).submit input) = w.submit input := by
  have asked : carry w contract.lastProposalId = w.contract.lastProposalId := carry_contract w _
  have stamped : carry w (ExceptT.lift (ask .stamp done)) = ExceptT.lift w.stamp := by
    rw [carry_lift, perform_ask]
    rfl
  have sent : (contract.submitProposal input).run.perform w =
      (w.contract.submitProposal input).run := perform_ask w _
  -- request by request; after the submission it depends on the outcome what is asked for
  rw [Workflow.submit, Workflow.submit, workflow, carry_bind, asked]
  refine bind_congr fun baseline => ?_
  rw [carry_bind, stamped]
  refine bind_congr fun (token, now) => ?_
  let key := CorrelationKey.forKind baseline input.kind token now
  have saved : carry w (session.saveKey key) = w.session.saveKey key := carry_session w (.save key)
  rw [carry_bind, saved]
  refine bind_congr fun _ => ?_
  rw [carry_bind, carry_lift, sent]
  refine bind_congr fun outcome => ?_
  cases outcome with
  | ok reportedId => rfl
  | error e =>
    have givenUp : carry w (session.invalidate token) = w.session.invalidate token :=
      carry_session w (.invalidate token)
    dsimp only
    rw [carry_bind, givenUp]
    rfl

/-- Performing the requests of resolving is resolving. -/
theorem carry_resolvePending :
    carry w (workflow w.options w.patience).resolvePending = w.resolvePending := by
  have loaded : carry w session.loadKey = w.session.loadKey := carry_session w .load
  rw [Workflow.resolvePending, Workflow.resolvePending, workflow, carry_bind, loaded]
  refine bind_congr fun key => ?_
  have found : carry w ((workflow w.options w.patience).resolve key) = w.resolve key :=
    carry_resolve w w.options w.patience key
  have consumed : carry w (session.invalidate key.token) = w.session.invalidate key.token :=
    carry_session w (.invalidate key.token)
  rw [carry_bind, ← workflow, found]
  refine bind_congr fun id => ?_
  have recorded : carry w (session.recordResolved id) = w.session.recordResolved id :=
    carry_session w (.record id)
  rw [carry_bind, workflow, consumed]
  refine bind_congr fun _ => ?_
  rw [carry_bind, recorded]
  rfl

end Flow

namespace Operation

/-- An operation as a flow: the operation on the workflow whose parts are requests. -/
def flow (options : ScanOptions) (patience : Nat) (op : Operation) :
    ExceptT Error Flow OperationResult :=
  op.perform (Flow.workflow options patience)

/-- **The requests of an operation are those of its flow.** Whatever performs them, in any lawful monad,
performing them one after the other is carrying the operation out. -/
theorem carry_flow {m : Type → Type} [Monad m] [LawfulMonad m] (w : Workflow m) (op : Operation) :
    Flow.carry w (op.flow w.options w.patience) = op.perform w := by
  cases op with
  | submit input =>
    rw [flow, perform, perform, Flow.carry_bind, Flow.carry_submit]
    rfl
  | resolvePending =>
    rw [flow, perform, perform, Flow.carry_bind, Flow.carry_resolvePending]
    rfl
  | submitAndResolve input =>
    rw [flow, perform, perform, Flow.carry_bind, Workflow.submitAndResolve, Workflow.submitAndResolve,
      Flow.carry_bind, Flow.carry_submit, bind_assoc]
    rw [bind_assoc]
    refine bind_congr fun _ => ?_
    rw [Flow.carry_resolvePending]
    rfl
  | session call =>
    have asked : Flow.carry w (call.perform (Flow.workflow w.options w.patience).session) =
        call.perform w.session := Flow.carry_session w call
    rw [flow, perform, perform, Flow.carry_bind, asked]
    rfl

end Operation

end Governance
