import Governance.Dao
import Governance.Proofs.Json.Records
import Governance.Proofs.Runs

/-!
# What goes over the line

What a client sends and what comes back is seen by putting a log beside the state of its endpoint
(`Endpoint.logged`); the endpoint behind does what it did without the log. A call may send its request several
times, but it is the same text each time, and a reply with a result is the last one and decides the call
(`Endpoint.logs_call`). So the reply that a broadcast gets decides what submitting to the deployed contract
gives (`Dao.logs_submitProposal`). A view is never mistaken for a broadcast
(`IsQuery.not_isBroadcast`).
-/

namespace Governance

open Json

variable {σ α β : Type}

/-- A record of regular values is regular. -/
theorem Json.Value.regular_record {members : List (String × Value)}
    (each : ∀ m ∈ members, m.2.Regular) : (record members).Regular := by
  have all : ∀ ms : List (String × Value), (∀ m ∈ ms, m.2.Regular) → RegularMembers ms := by
    intro ms h
    induction ms with
    | nil => trivial
    | cons m ms ih => exact ⟨h m List.mem_cons_self, ih fun m hm => h m (List.mem_cons_of_mem _ hm)⟩
  refine ⟨(StringMap.ofList members).sorted, all _ fun m hm => ?_⟩
  exact each m (StringMap.mem_of_get?_ofList (StringMap.mem_entries.1 hm))

namespace Rpc

/-- A request, and what came back for it. -/
structure Exchange where
  request : String
  reply : Reply
  deriving DecidableEq

/-! ## Logs -/

/-- An action with a log does what the other one does without, and what it logs is as told. -/
def Logs (told : List Exchange → Except Error α → Prop) (x : ExceptT Error (StateM σ) α)
    (y : ExceptT Error (StateM (σ × List Exchange)) α) : Prop :=
  ∀ s log, ∃ es, y (s, log) = ((x s).1, ((x s).2, log ++ es)) ∧ told es (x s).1

namespace Logs

variable {x : ExceptT Error (StateM σ) α} {y : ExceptT Error (StateM (σ × List Exchange)) α}
  {told : List Exchange → Except Error α → Prop}

theorem liftExcept (outcome : Except Error α) :
    Logs (fun es o => es = [] ∧ o = outcome) (liftExcept outcome : ExceptT Error (StateM σ) α)
      (liftExcept outcome) := by
  intro s log
  refine ⟨[], ?_, rfl, by rw [run_liftExcept]⟩
  rw [run_liftExcept, run_liftExcept, List.append_nil]

/-- What is logged by a sequence is what its parts log. -/
theorem bind {f : α → ExceptT Error (StateM σ) β}
    {g : α → ExceptT Error (StateM (σ × List Exchange)) β}
    {later : α → List Exchange → Except Error β → Prop}
    {all : List Exchange → Except Error β → Prop} (first : Logs told x y)
    (rest : ∀ a, Logs (later a) (f a) (g a))
    (fails : ∀ es e, told es (.error e) → all es (.error e))
    (goes : ∀ es a es' outcome, told es (.ok a) → later a es' outcome → all (es ++ es') outcome) :
    Logs all (x >>= f) (y >>= g) := by
  intro s log
  obtain ⟨es, same, said⟩ := first s log
  rcases run : x s with ⟨outcome, t⟩
  rw [run] at same said
  cases outcome with
  | error e =>
    rw [run_bind_error run, run_bind_error same]
    exact ⟨es, rfl, fails es e said⟩
  | ok a =>
    obtain ⟨es', same', said'⟩ := rest a t (log ++ es)
    rw [run_bind_ok run, run_bind_ok same, same', List.append_assoc]
    exact ⟨es ++ es', rfl, goes es a es' _ said said'⟩

end Logs

/-! ## Calls -/

namespace Endpoint

/-- The same endpoint, with a log of what goes over the line. -/
def logged (endpoint : Endpoint (StateM σ)) : Endpoint (StateM (σ × List Exchange)) where
  nextId := fun (s, log) =>
    let (id, t) := endpoint.nextId s
    (id, (t, log))
  post request := fun (s, log) =>
    let (reply, t) := endpoint.post request s
    (reply, (t, log ++ [⟨request, reply⟩]))
  retries := endpoint.retries

/-- The request was sent, perhaps several times, and a reply that has a result decides the outcome. -/
def Decides (request : String) (es : List Exchange) (outcome : Except Error Value) : Prop :=
  ∀ e ∈ es, e.request = request ∧ ∀ v, e.reply.result = .ok v → outcome = .ok v

variable (endpoint : Endpoint (StateM σ))

/-- Sending gives what the reply means. -/
theorem send_eq (request : String) (s : σ) : endpoint.send request s =
    ((endpoint.post request s).1.result, (endpoint.post request s).2) := by
  rw [send, run_bind_ok (run_lift _), run_liftExcept]

/-- One attempt is one exchange. -/
theorem run_send (request : String) (s : σ) (log : List Exchange) :
    endpoint.logged.send request (s, log) =
      ((endpoint.send request s).1, ((endpoint.send request s).2,
        log ++ [⟨request, (endpoint.post request s).1⟩])) ∧
      (endpoint.send request s).1 = (endpoint.post request s).1.result := by
  rw [send_eq, send_eq]
  exact ⟨rfl, rfl⟩

theorem decides_single {request : String} {reply : Reply} {outcome : Except Error Value}
    (h : ∀ v, reply.result = .ok v → outcome = .ok v) : Decides request [⟨request, reply⟩] outcome := by
  intro e he
  obtain rfl := List.mem_singleton.1 he
  exact ⟨rfl, h⟩

/-- Attempts end with the first reply that has a result. -/
theorem logs_attempts (request : String) (exhausted : Error) (left : Nat) :
    Logs (Decides request) (attempts Error.isRetryable exhausted (endpoint.send request) left)
      (attempts Error.isRetryable exhausted (endpoint.logged.send request) left) := by
  induction left with
  | zero =>
    intro s log
    obtain ⟨same, means⟩ := endpoint.run_send request s log
    refine ⟨[⟨request, (endpoint.post request s).1⟩], ?_⟩
    rcases decided_or_admitted (endpoint.send request) Error.isRetryable s with
      decided | ⟨e, run, admitted⟩
    · rw [attempts_decided decided, attempts_decided (by rw [same]; exact decided), same]
      exact ⟨rfl, decides_single fun v h => means.trans h⟩
    · rw [run] at same means
      rw [attempts_run_exhausted run admitted, attempts_run_exhausted same admitted]
      exact ⟨rfl, decides_single fun v h => by cases means.trans h⟩
  | succ left ih =>
    intro s log
    obtain ⟨same, means⟩ := endpoint.run_send request s log
    rcases decided_or_admitted (endpoint.send request) Error.isRetryable s with
      decided | ⟨e, run, admitted⟩
    · refine ⟨[⟨request, (endpoint.post request s).1⟩], ?_⟩
      rw [attempts_decided decided, attempts_decided (by rw [same]; exact decided), same]
      exact ⟨rfl, decides_single fun v h => means.trans h⟩
    · rw [run] at same means
      rw [attempts_run_again run admitted, attempts_run_again same admitted]
      obtain ⟨es, again, decides⟩ := ih (endpoint.send request s).2
        (log ++ [⟨request, (endpoint.post request s).1⟩])
      refine ⟨⟨request, (endpoint.post request s).1⟩ :: es, ?_, ?_⟩
      · rw [again, List.append_assoc]
        rfl
      · refine List.forall_mem_cons.2 ⟨⟨rfl, fun v h => ?_⟩, decides⟩
        cases means.trans h

/-- **The reply with a result decides the call**, and all requests of a call are the same. -/
theorem logs_call (method : String) (params : Value) :
    Logs (fun es outcome => ∃ id, Decides (requestText id method params) es outcome)
      (endpoint.call method params) (endpoint.logged.call method params) := by
  intro s log
  obtain ⟨es, same, decides⟩ := endpoint.logs_attempts
    (requestText (endpoint.nextId s).1 method params) (.maxRetriesExceeded endpoint.retries)
    endpoint.retries (endpoint.nextId s).2 log
  refine ⟨es, ?_, (endpoint.nextId s).1, ?_⟩
  · rw [call, call, run_bind_ok (run_lift _), run_bind_ok (run_lift _)]
    exact same
  · rw [call, run_bind_ok (run_lift _)]
    exact decides

end Endpoint

/-! ## Views and broadcasts -/

/-- The request of a view. -/
def IsQuery (request : String) : Prop :=
  ∃ id account method args, request = requestText id "query" (viewParams account method args)

/-- The request of a broadcast. -/
def IsBroadcast (request : String) : Prop :=
  ∃ id transaction, request = requestText id "broadcast_tx_commit" (.array [.string transaction])

/-- The ID and the method of a request, as its text tells them. -/
def headOf? : String → Option (UInt64 × String) :=
  Decoder.ofText? fun depth d => do
    let r ← Decoder.record ["id", "method"] depth d
    return (← r.required "id" Decoder.uint64, ← r.required "method" Decoder.string)

/-- The text of a request tells its ID and its method. -/
theorem headOf?_requestText {id : UInt64} {method : String} {params : Value}
    (regular : params.Regular) : headOf? (requestText id method params) = some (id, method) := by
  have writable : (Document.record [("jsonrpc", .text "2.0"), ("id", .nat id.toNat),
      ("method", .text method), ("params", params.toDocument)]).Writable := by
    refine Document.writable_record ?_
    simp only [List.forall_mem_cons]
    exact ⟨Document.writable_text _, Document.writable_nat _, Document.writable_text _,
      Value.writable_toDocument _ regular, fun _ h => by cases h⟩
  rw [headOf?, requestText, Decoder.ofText?_toText writable]
  refine (Decoder.bind_record_written (by simp) ["id", "method"] (Value.deepest - 1) _).trans ?_
  rw [Decoder.required_written (by simp) rfl, Decoder.uint64_nat,
    Decoder.required_text (by simp) rfl]
  rfl

/-- Requests with the same text have the same method. -/
theorem method_of_requestText {id id' : UInt64} {method method' : String} {params params' : Value}
    (regular : params.Regular) (regular' : params'.Regular)
    (same : requestText id method params = requestText id' method' params') : method = method' := by
  have read : headOf? (requestText id method params) = some (id, method) := headOf?_requestText regular
  rw [same, headOf?_requestText regular'] at read
  exact (Prod.mk.inj (Option.some.inj read)).2.symm

theorem regular_viewParams (account method : String) (args : Value) :
    (viewParams account method args).Regular := by
  refine Value.regular_record ?_
  simp only [List.forall_mem_cons]
  exact ⟨trivial, trivial, trivial, trivial, trivial, fun _ h => by cases h⟩

/-- A view is not mistaken for a broadcast. -/
theorem IsQuery.not_isBroadcast {request : String} (query : IsQuery request) : ¬ IsBroadcast request := by
  intro ⟨id', transaction, sent⟩
  obtain ⟨id, account, method, args, asked⟩ := query
  have regular := regular_viewParams account method args
  have regular' : (Value.array [.string transaction]).Regular := ⟨trivial, trivial⟩
  exact absurd (method_of_requestText regular regular' (asked.symm.trans sent)) (by decide)

namespace Endpoint

variable (endpoint : Endpoint (StateM σ))

theorem logs_view (read : Decoder α) (account method : String) (args : Value) :
    Logs (fun es _ => ∀ e ∈ es, IsQuery e.request) (endpoint.view read account method args)
      (endpoint.logged.view read account method args) := by
  refine (endpoint.logs_call "query" (viewParams account method args)).bind
    (fun result => Logs.liftExcept (viewed read method result)) ?_ ?_
  · rintro es e ⟨id, decides⟩ x hx
    exact ⟨id, account, method, args, (decides x hx).1⟩
  · rintro es a es' outcome ⟨id, decides⟩ ⟨rfl, _⟩ x hx
    rw [List.append_nil] at hx
    exact ⟨id, account, method, args, (decides x hx).1⟩

/-- What the reply with a result says of the transaction is the outcome of the broadcast. -/
theorem logs_broadcast (method transaction : String) :
    Logs (fun es outcome => ∀ e ∈ es, IsBroadcast e.request ∧
        ∀ v, e.reply.result = .ok v → outcome = committed method v)
      (endpoint.broadcast method transaction) (endpoint.logged.broadcast method transaction) := by
  refine (endpoint.logs_call "broadcast_tx_commit" (.array [.string transaction])).bind
    (fun result => Logs.liftExcept (committed method result)) ?_ ?_
  · rintro es e ⟨id, decides⟩ x hx
    obtain ⟨sent, decided⟩ := decides x hx
    refine ⟨⟨id, transaction, sent⟩, fun v h => ?_⟩
    cases decided v h
  · rintro es a es' outcome ⟨id, decides⟩ ⟨rfl, rfl⟩ x hx
    rw [List.append_nil] at hx
    obtain ⟨sent, decided⟩ := decides x hx
    refine ⟨⟨id, transaction, sent⟩, fun v h => ?_⟩
    cases decided v h
    rfl

end Endpoint

/-! ## Prepared replies -/

/-- The reply that gives a result. -/
def Reply.giving (v : Value) : Reply :=
  .answered 200 none (Text.Utf8.encode (Document.record [("result", v.toDocument)]).toText)

/-- An object that was given as the result is understood as such. -/
theorem Reply.result_giving {members : List (String × Value)} (regular : (Value.object members).Regular)
    (shallow : (Value.object members).depth < Value.deepest) :
    (giving (.object members)).result = .ok (.object members) := by
  have writable : (Document.record [("result", (Value.object members).toDocument)]).Writable := by
    refine Document.writable_record ?_
    rw [List.forall_mem_singleton]
    exact Value.writable_toDocument _ regular
  have back : Decoder.value (Value.deepest - 1) (Value.object members).toDocument =
      some (.object members) :=
    Value.ofDocument?_toDocument _ _ regular (by omega)
  have given : Decoder.nullable Decoder.value (Value.deepest - 1) (Value.object members).toDocument =
      some (some (.object members)) := congrArg (Option.map some) back
  have read : ofBytes? Answer.ofDocument? (Text.Utf8.encode
      (Document.record [("result", (Value.object members).toDocument)]).toText) =
        some ⟨some (.object members), none⟩ := by
    rw [ofBytes?_encode, Decoder.ofText?_toText writable]
    refine (Decoder.bind_record_written (by simp) ["result", "error"] (Value.deepest - 1) _).trans ?_
    rw [Decoder.withDefault_written (by simp) rfl, given]
    rfl
  rw [giving, result, if_neg (by decide), if_neg (by decide), read]
  rfl

/-- An endpoint that gives prepared replies, one after the other, and repeats nothing. -/
def Endpoint.prepared : Endpoint (StateM (List Reply)) where
  nextId := pure 1
  post _ := fun
    | [] => (.failed, [])
    | reply :: rest => (reply, rest)
  retries := 0

/-- A call gets the first of the replies. -/
theorem Endpoint.prepared_call {reply : Reply} {v : Value} (answers : reply.result = .ok v)
    (method : String) (params : Value) (rest : List Reply) (log : List Exchange) :
    prepared.logged.call method params (reply :: rest, log) =
      (.ok v, (rest, log ++ [⟨requestText 1 method params, reply⟩])) := by
  have once : prepared.logged.send (requestText 1 method params) (reply :: rest, log) =
      (.ok v, (rest, log ++ [⟨requestText 1 method params, reply⟩])) := by
    rw [send, run_bind_ok (run_lift _), run_liftExcept]
    exact Prod.ext answers rfl
  rw [call, run_bind_ok (run_lift _)]
  exact attempts_run_ok once 0

end Rpc

/-! ## The deployed contract -/

open Rpc

/-- Whoever holds the keys does not see the log. -/
def Signer.logged (signer : Signer (StateM σ)) : Signer (StateM (σ × List Exchange)) where
  id := signer.id
  sign call := ExceptT.mk fun (s, log) =>
    let (outcome, t) := (signer.sign call).run s
    (outcome, (t, log))

namespace Dao

/-- The same contract, with a log of what goes over the line. -/
def logged (dao : Dao (StateM σ)) : Dao (StateM (σ × List Exchange)) :=
  ⟨dao.endpoint.logged, dao.signer.logged, dao.config⟩

variable (dao : Dao (StateM σ))

/-- Asking for the last ID sends views only. -/
theorem logs_lastProposalId :
    Logs (fun es _ => ∀ e ∈ es, IsQuery e.request) dao.governance.lastProposalId
      dao.logged.governance.lastProposalId :=
  dao.endpoint.logs_view _ _ _ _

theorem logs_call (method : String) (args : List (String × Value)) (gas : UInt64) (deposit : Amount) :
    Logs (fun es outcome => ∀ e ∈ es, IsBroadcast e.request ∧
        ∀ v, e.reply.result = .ok v → outcome = committed method v)
      (dao.call method args gas deposit) (dao.logged.call method args gas deposit) := by
  have signs : Logs (fun es _ => es = [])
      (dao.signer.sign ⟨dao.config.contractId, method, .record args, gas, deposit⟩)
      (dao.logged.signer.sign ⟨dao.config.contractId, method, .record args, gas, deposit⟩) := by
    intro s log
    exact ⟨[], by rw [List.append_nil]; rfl, rfl⟩
  refine signs.bind (fun signed => dao.endpoint.logs_broadcast method signed) ?_ ?_
  · rintro es e rfl x hx
    cases hx
  · rintro es signed es' outcome rfl told
    exact told

/-- **The reply to its broadcast decides a submission.** -/
theorem logs_submitProposal (input : ProposalInput) :
    Logs (fun es outcome => ∀ e ∈ es, IsBroadcast e.request ∧
        ∀ v, e.reply.result = .ok v →
          outcome = (committed "add_proposal" v).map fun o => o.returnValue.asUInt64?)
      (dao.governance.submitProposal input) (dao.logged.governance.submitProposal input) := by
  refine (dao.logs_call "add_proposal" [("proposal", input.toValue)] dao.config.proposalGas
    default).bind (fun o => Logs.liftExcept (.ok o.returnValue.asUInt64?)) ?_ ?_
  · intro es e told x hx
    obtain ⟨sent, decided⟩ := told x hx
    refine ⟨sent, fun v h => ?_⟩
    rw [← decided v h]
    rfl
  · rintro es o es' outcome told ⟨rfl, rfl⟩ x hx
    rw [List.append_nil] at hx
    obtain ⟨sent, decided⟩ := told x hx
    refine ⟨sent, fun v h => ?_⟩
    rw [← decided v h]
    rfl

end Dao

end Governance
