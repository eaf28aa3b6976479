import Governance.Proofs.Session.Refinement
import Governance.Proofs.Workflow.Flow
import Mathlib.Logic.Function.Basic

/-!
# Flows by turns

Several flows may share a session. A scene is the session together with the flows that are going on; one
step of a flow begins an operation, gets an answer, or ends the operation (`Step`), and any flow may take the
next one. The session answers according to its state; the contract and the source of stamps answer whatever
they like. A run (`Run`) is what happened in any number of steps. What a flow does in a run is what a workflow does:
a flow is an operation of the workflow whose parts are requests (`Operation.flow`), carrying an operation out is
performing its requests (`Operation.carry_flow`), and it leaves the session as a run does (`Run.perform`).

A flow alone decides what it asks for, by what happened to it so far. So a rule on requests that every
operation observes (`Flow.Heeds`) is observed in every run, however the flows take turns (`Run.heeds`). The rule
of all operations is `Request.Due`: a key is saved right after its token was given, and given up only if its
own submission failed or if it was loaded and looked for. Main statement: every request in a run is due
(`Run.due`).
-/

namespace Governance

variable {τ α β : Type}

/-! ## Steps and runs -/

/-- What happens to a flow. -/
inductive FlowEvent
  | begins (op : Operation) (options : ScanOptions) (patience : Nat)
  | asked (request : Request) (answer : request.Answer)
  | ends (outcome : Except Error OperationResult)

/-- What happened, and to which flow. -/
abbrev Trace := List (Nat × FlowEvent)

/-- What happened to one flow. -/
def Trace.of (T : Trace) (i : Nat) : List FlowEvent :=
  T.filterMap fun (j, e) => if j = i then some e else none

/-- A session and the flows that share it. -/
structure Scene (τ : Type) where
  session : τ
  running : Nat → Option (Flow (Except Error OperationResult))

/-- What may be answered, and in which state the session is left. -/
def Request.Answered (store : SessionStore (StateM τ)) :
    (request : Request) → request.Answer → τ → τ → Prop
  | session call, answer, s, t => call.perform store.session s = (answer, t)
  | contract _, _, s, t => t = s
  | stamp, _, s, t => t = s

/-- A step of one flow. -/
inductive Step (store : SessionStore (StateM τ)) (c : Scene τ) (i : Nat) :
    FlowEvent → Scene τ → Prop
  | begins (idle : c.running i = none) (op : Operation) (options : ScanOptions) (patience : Nat) :
    Step store c i (.begins op options patience)
      ⟨c.session, Function.update c.running i (some (op.flow options patience).run)⟩
  | asks (request : Request) (answer : request.Answer)
      {resume : request.Answer → Flow (Except Error OperationResult)} {t : τ}
      (waits : c.running i = some (.ask request resume))
      (answered : request.Answered store answer c.session t) :
    Step store c i (.asked request answer)
      ⟨t, Function.update c.running i (some (resume answer))⟩
  | ends {outcome : Except Error OperationResult} (finished : c.running i = some (.done outcome)) :
    Step store c i (.ends outcome) ⟨c.session, Function.update c.running i none⟩

/-- What happened from a session on, and how things stand then. -/
inductive Run (store : SessionStore (StateM τ)) (s₀ : τ) : Trace → Scene τ → Prop
  | start : Run store s₀ [] ⟨s₀, fun _ => none⟩
  | step {T : Trace} {c c' : Scene τ} {i : Nat} {e : FlowEvent} (before : Run store s₀ T c)
      (last : Step store c i e c') : Run store s₀ (T ++ [(i, e)]) c'

namespace Run

variable {store : SessionStore (StateM τ)} {s₀ : τ} {T : Trace} {c : Scene τ}

/-- An operation may begin wherever none is going on. -/
theorem begins (run : Run store s₀ T c) (i : Nat) (op : Operation) (options : ScanOptions)
    (patience : Nat) (idle : c.running i = none) :
    ∃ c', Run store s₀ (T ++ [(i, .begins op options patience)]) c' ∧ c'.session = c.session ∧
      c'.running i = some (op.flow options patience).run ∧ ∀ j ≠ i, c'.running j = c.running j :=
  ⟨_, run.step (.begins idle op options patience), rfl, Function.update_self i _ _,
    fun _ other => Function.update_of_ne other _ _⟩

/-- A flow that waits may get any answer. -/
theorem asks (run : Run store s₀ T c) (i : Nat) (request : Request) (answer : request.Answer)
    {resume : request.Answer → Flow (Except Error OperationResult)} {t : τ}
    (waits : c.running i = some (.ask request resume))
    (answered : request.Answered store answer c.session t) :
    ∃ c', Run store s₀ (T ++ [(i, .asked request answer)]) c' ∧ c'.session = t ∧
      c'.running i = some (resume answer) ∧ ∀ j ≠ i, c'.running j = c.running j :=
  ⟨_, run.step (.asks request answer waits answered), rfl, Function.update_self i _ _,
    fun _ other => Function.update_of_ne other _ _⟩

end Run

namespace Trace

theorem of_append (T U : Trace) (i : Nat) : (T ++ U).of i = T.of i ++ U.of i :=
  List.filterMap_append

theorem of_snoc_self (T : Trace) (i : Nat) (e : FlowEvent) : (T ++ [(i, e)]).of i = T.of i ++ [e] := by
  rw [of_append]
  simp [of]

theorem of_snoc_other (T : Trace) {i j : Nat} (other : j ≠ i) (e : FlowEvent) :
    (T ++ [(j, e)]).of i = T.of i := by
  rw [of_append]
  simp [of, other]

theorem mem_of {T : Trace} {i : Nat} {e : FlowEvent} : e ∈ T.of i ↔ (i, e) ∈ T := by
  simp [of]

end Trace

/-! ## Rules -/

namespace Flow

variable {due : List FlowEvent → Request → Prop}

/-- Every request of a flow that has seen `past` is due when it comes, whatever is answered, and what the flow
gives is as said. -/
def Heeds (due : List FlowEvent → Request → Prop) (gives : List FlowEvent → α → Prop) :
    List FlowEvent → Flow α → Prop
  | past, done a => gives past a
  | past, ask request resume =>
    due past request ∧ ∀ answer, Heeds due gives (past ++ [.asked request answer]) (resume answer)

theorem Heeds.bind {mid : List FlowEvent → α → Prop} {gives : List FlowEvent → β → Prop}
    {past : List FlowEvent} {x : Flow α} {f : α → Flow β} (first : x.Heeds due mid past)
    (rest : ∀ past a, mid past a → (f a).Heeds due gives past) : (x >>= f).Heeds due gives past := by
  induction x generalizing past with
  | done a => exact rest past a first
  | ask request resume ih => exact ⟨first.1, fun answer => ih answer (first.2 answer)⟩

theorem Heeds.mono {gives gives' : List FlowEvent → α → Prop} {past : List FlowEvent} {x : Flow α}
    (weaker : ∀ past a, gives past a → gives' past a) (h : x.Heeds due gives past) :
    x.Heeds due gives' past := by
  induction x generalizing past with
  | done a => exact weaker past a h
  | ask request resume ih => exact ⟨h.1, fun answer => ih answer (h.2 answer)⟩

/-- After a failure nothing is asked for. -/
theorem Heeds.bind_run {mid : List FlowEvent → Except Error α → Prop}
    {gives : List FlowEvent → Except Error β → Prop} {past : List FlowEvent} {x : ExceptT Error Flow α}
    {f : α → ExceptT Error Flow β} (first : x.run.Heeds due mid past)
    (rest : ∀ past a, mid past (.ok a) → (f a).run.Heeds due gives past)
    (fails : ∀ past e, mid past (.error e) → gives past (.error e)) :
    (x >>= f).run.Heeds due gives past := by
  refine Heeds.bind (x := x.run) (f := ExceptT.bindCont f) first fun past outcome h => ?_
  cases outcome with
  | ok a => exact rest past a h
  | error e => exact fails past e h

theorem Heeds.tryCatch {mid gives : List FlowEvent → Except Error α → Prop} {past : List FlowEvent}
    {x : ExceptT Error Flow α} {handle : Error → ExceptT Error Flow α}
    (first : x.run.Heeds due mid past) (fine : ∀ past a, mid past (.ok a) → gives past (.ok a))
    (handled : ∀ past e, mid past (.error e) → (handle e).run.Heeds due gives past) :
    (ExceptT.tryCatch x handle).run.Heeds due gives past := by
  refine Heeds.bind (x := x.run) first fun past outcome h => ?_
  cases outcome with
  | ok a => exact fine past a h
  | error e => exact handled past e h

end Flow

/-- **A rule of all operations is a rule of all runs.** What is left of a flow observes it, given what happened
to this flow, and nothing that happens to others matters. -/
theorem Run.heeds {store : SessionStore (StateM τ)} {due : List FlowEvent → Request → Prop} {s₀ : τ}
    {T : Trace} {c : Scene τ} (run : Run store s₀ T c)
    (rule : ∀ op options patience past, (Operation.flow options patience op).run.Heeds due
      (fun _ _ => True) (past ++ [.begins op options patience])) {i : Nat}
    {rest : Flow (Except Error OperationResult)} (going : c.running i = some rest) :
    rest.Heeds due (fun _ _ => True) (T.of i) := by
  induction run generalizing i rest with
  | start => cases going
  | @step T c c' j e before last ih =>
    by_cases own : i = j
    · subst own
      rw [Trace.of_snoc_self]
      cases last with
      | begins idle op options patience =>
        cases (Function.update_self i _ c.running).symm.trans going
        exact rule op options patience _
      | asks request answer waits answered =>
        cases (Function.update_self i _ c.running).symm.trans going
        exact (ih waits).2 _
      | ends finished => cases (Function.update_self i _ c.running).symm.trans going
    · -- the step was another flow's
      rw [Trace.of_snoc_other T (Ne.symm own)]
      have same : c'.running i = c.running i := by
        cases last <;> exact Function.update_of_ne own _ _
      exact ih (same ▸ going)

/-! ## The rule of all operations -/

/-- The contract was asked for a page. -/
def FlowEvent.IsPage (e : FlowEvent) : Prop :=
  ∃ fromIndex limit answer, e = .asked (.contract (.listProposals fromIndex limit)) answer

/-- Which requests are due after what happened to a flow. -/
inductive Request.Due : List FlowEvent → Request → Prop
  | contract (past : List FlowEvent) (request : ContractRequest) : Due past (.contract request)
  | stamp (past : List FlowEvent) : Due past .stamp
  | load (past : List FlowEvent) : Due past (.session .load)
  | record (past : List FlowEvent) (id : UInt64) : Due past (.session (.record id))
  /-- What was asked for directly. -/
  | direct (past : List FlowEvent) (call : SessionCall) (options : ScanOptions) (patience : Nat) :
    Due (past ++ [.begins (.session call) options patience]) (.session call)
  /-- A key is saved when its token has just been given. -/
  | save (past : List FlowEvent) (baseline : UInt64) (kind : ProposalKind) (token : Uuid)
      (now : Timestamp) :
    Due (past ++ [.asked .stamp (token, now)]) (.session (.save (.forKind baseline kind token now)))
  /-- A key is given up when its own submission has just failed. -/
  | giveUp (past : List FlowEvent) (key : CorrelationKey) (input : ProposalInput) (e : Error) :
    Due (past ++ [.asked (.session (.save key)) (.ok ()),
      .asked (.contract (.submitProposal input)) (.error e)]) (.session (.invalidate key.token))
  /-- A key is consumed when it was loaded and pages were read to find its proposal. -/
  | consume (past : List FlowEvent) (key : CorrelationKey) (pages : List FlowEvent)
      (reading : ∀ e ∈ pages, e.IsPage) :
    Due (past ++ .asked (.session .load) (.ok key) :: pages) (.session (.invalidate key.token))

/-- A key is saved because it was asked for directly, or its token has just been given. -/
theorem Request.Due.save_cases {past : List FlowEvent} {key : CorrelationKey}
    (due : Request.Due past (.session (.save key))) :
    (∃ options patience, .begins (.session (.save key)) options patience ∈ past) ∨
      ∃ before now, past = before ++ [.asked .stamp (key.token, now)] ∧
        ∃ baseline kind, key = .forKind baseline kind key.token now := by
  cases due with
  | direct past call options patience =>
    exact .inl ⟨options, patience, List.mem_append_right _ List.mem_cons_self⟩
  | save past baseline kind token now => exact .inr ⟨past, now, rfl, baseline, kind, rfl⟩

/-- Pages were read, and nothing else. -/
def Reads (past now : List FlowEvent) : Prop :=
  ∃ pages, now = past ++ pages ∧ ∀ e ∈ pages, e.IsPage

theorem Reads.refl (past : List FlowEvent) : Reads past past :=
  ⟨[], (List.append_nil past).symm, fun _ h => absurd h List.not_mem_nil⟩

theorem Reads.trans {past mid now : List FlowEvent} (first : Reads past mid) (rest : Reads mid now) :
    Reads past now := by
  obtain ⟨pages, rfl, isPage⟩ := first
  obtain ⟨more, rfl, isPage'⟩ := rest
  refine ⟨pages ++ more, List.append_assoc _ _ _, fun e h => ?_⟩
  exact (List.mem_append.1 h).elim (isPage e) (isPage' e)

namespace Flow

open Request

/-- Looking through the list reads pages. -/
theorem heeds_scanPages (options : ScanOptions) (key : CorrelationKey) (start : UInt64) (pages : Nat)
    (isFirst : Bool) (index : UInt64) (scanned : Nat) (past : List FlowEvent) :
    (contract.scanPages options key start pages isFirst index scanned).run.Heeds Due
      (fun now _ => Reads past now) past := by
  induction pages generalizing isFirst index scanned past with
  | zero => exact Reads.refl past
  | succ pages ih =>
    rw [GovernanceContract.scanPages]
    have asks : (contract.listProposals index options.pageSize).run.Heeds Due
        (fun now _ => Reads past now) past := by
      refine ⟨.contract past _, fun answer => ?_⟩
      exact ⟨[_], rfl, fun e h => ⟨_, _, _, List.mem_singleton.1 h⟩⟩
    refine asks.bind_run ?_ fun _ _ h => h
    · intro mid page read
      cases GovernanceContract.verdict options key start isFirst scanned page with
      | some outcome => cases outcome <;> exact read
      | none => exact (ih _ _ _ mid).mono fun _ _ more => read.trans more

/-- Looking again reads pages, as long as one attempt does. -/
theorem heeds_attempts {admits : Error → Bool} {exhausted : Error} {x : ExceptT Error Flow α}
    (reads : ∀ past, x.run.Heeds Due (fun now _ => Reads past now) past) (left : Nat)
    (past : List FlowEvent) :
    (attempts admits exhausted x left).run.Heeds Due (fun now _ => Reads past now) past := by
  induction left generalizing past with
  | zero =>
    refine Heeds.tryCatch (reads past) (fun _ _ h => h) fun mid e read => ?_
    exact read
  | succ left ih =>
    refine Heeds.tryCatch (reads past) (fun _ _ h => h) fun mid e read => ?_
    cases admits e with
    | true => exact (ih mid).mono fun _ _ more => read.trans more
    | false => exact read

variable {options : ScanOptions} {patience : Nat}

theorem heeds_submit (input : ProposalInput) (past : List FlowEvent) :
    ((workflow options patience).submit input).run.Heeds Due (fun _ _ => True) past := by
  -- the baseline, the stamp, the key, the submission; only its failure has a request after it
  refine ⟨.contract _ _, fun baseline => ?_⟩
  cases baseline with
  | error e => trivial
  | ok baseline =>
    refine ⟨.stamp _, fun (token, now) => ⟨.save _ _ _ _ _, fun saved => ?_⟩⟩
    cases saved with
    | error e => trivial
    | ok _ =>
      refine ⟨.contract _ _, fun sent => ?_⟩
      cases sent with
      | ok reportedId => trivial
      | error e =>
        refine ⟨?_, fun cleared => by cases cleared <;> trivial⟩
        rw [List.append_assoc]
        exact .giveUp _ _ _ _

theorem heeds_resolvePending (past : List FlowEvent) :
    (workflow options patience).resolvePending.run.Heeds Due (fun _ _ => True) past := by
  refine ⟨.load _, fun loaded => ?_⟩
  cases loaded with
  | error e => trivial
  | ok key =>
    have search : (contract.resolve options patience key).run.Heeds Due
        (fun now _ => Reads (past ++ [.asked (.session .load) (.ok key)]) now)
        (past ++ [.asked (.session .load) (.ok key)]) :=
      heeds_attempts (heeds_scanPages options key _ _ _ _ _) patience _
    refine search.bind_run ?_ fun _ _ _ => trivial
    intro now id read
    obtain ⟨pages, rfl, reading⟩ := read
    refine ⟨?_, fun cleared => ?_⟩
    · rw [List.append_assoc]
      exact .consume _ _ _ reading
    · cases cleared with
      | error e => trivial
      | ok own => exact ⟨.record _ _, fun recorded => by cases recorded <;> trivial⟩

theorem heeds_submitAndResolve (input : ProposalInput) (past : List FlowEvent) :
    ((workflow options patience).submitAndResolve input).run.Heeds Due (fun _ _ => True) past :=
  Heeds.bind_run (heeds_submit input past) (fun mid _ _ => heeds_resolvePending mid) fun _ _ _ => trivial

/-- Every operation asks only for what is due. -/
theorem heeds_flow (op : Operation) (options : ScanOptions) (patience : Nat)
    (past : List FlowEvent) :
    (op.flow options patience).run.Heeds Due (fun _ _ => True)
      (past ++ [.begins op options patience]) := by
  cases op with
  | submit input =>
    exact Heeds.bind_run (heeds_submit input _) (fun _ _ _ => trivial) fun _ _ _ => trivial
  | resolvePending =>
    exact Heeds.bind_run (heeds_resolvePending _) (fun _ _ _ => trivial) fun _ _ _ => trivial
  | submitAndResolve input =>
    exact Heeds.bind_run (heeds_submitAndResolve input _) (fun _ _ _ => trivial) fun _ _ _ => trivial
  | session call =>
    cases call <;> exact ⟨.direct _ _ _ _, fun answer => by cases answer <;> trivial⟩

end Flow

/-- **Every request is due when it is made**, whatever other flows did. -/
theorem Run.due {store : SessionStore (StateM τ)} {s₀ : τ} {T : Trace} {c c' : Scene τ}
    (run : Run store s₀ T c) {i : Nat} {request : Request} {answer : request.Answer}
    (asked : Step store c i (.asked request answer) c') : request.Due (T.of i) := by
  cases asked with
  | asks request answer waits answered => exact (run.heeds Flow.heeds_flow waits).1

end Governance
