import Governance.Proofs.Rpc.Exchanges
import Governance.Proofs.Rpc.Process

/-!
# One signature for each operation

What an operation of a client sends has a number of its own, and the repetitions of a call are the same text. What
is signed is broadcast at once, and nothing is signed twice. All this is one rule on deeds (`Deed.Due`). Most of what
a client does is calm: it asks for views and uses the session. A calm process observes the rule whatever
happened before; what has a call signed and broadcasts it observes the rule as long as nothing but calm processes
went before. The two notions are closed under sequences (`Calm.bind_run`, `Calm.once_bind`, `Once.bind_calm`), so there
is one lemma for each function of the client.
-/

namespace Governance

open Json Rpc

/-- A request to broadcast a transaction. -/
def Rpc.Broadcasts (request : String) : Prop :=
  ∃ id, headOf? request = some (id, "broadcast_tx_commit")

/-- What a call comes to by its last reply: an error that may go away becomes the one that says that nothing more
is tried. -/
def Rpc.Reply.final (exhausted : Error) (reply : Reply) : Except Error Value :=
  reply.result.mapError fun e => if e.isRetryable then exhausted else e

namespace Deed

/-- Neither a signature nor a broadcast. -/
def Calm : Deed → Prop
  | sign _ => False
  | post _ _ request => ¬ Broadcasts request
  | _ => True

/-- Nothing that is sent or signed. -/
def Plain : Deed → Prop
  | sign _ | post _ _ _ => False
  | _ => True

theorem Plain.calm {deed : Deed} (plain : deed.Plain) : deed.Calm := by
  cases deed with
  | sign call => exact plain
  | post wire url request => exact absurd plain id
  | _ => trivial

/-- Which deeds are due after what happened to a process. -/
inductive Due : List Occurrence → Deed → Prop
  | plain {deed : Deed} (past : List Occurrence) (plain : deed.Plain) : Due past deed
  /-- A call is signed if nothing was signed or broadcast before. -/
  | sign {past : List Occurrence} (calm : ∀ o ∈ past, o.deed.Calm) (call : FunctionCall) :
    Due past (.sign call)
  /-- A request is sent when a number was taken for it, and again after it was sent. -/
  | ask (earlier : List Occurrence) (wire : Wire) (url : String) (id : UInt64) {method : String}
      {params : Value} (other : method ≠ "broadcast_tx_commit") (regular : params.Regular)
      {tries : List Occurrence}
      (again : ∀ o ∈ tries, o.deed = .post wire url (requestText id method params)) :
    Due (earlier ++ [⟨.number wire, id⟩] ++ tries) (.post wire url (requestText id method params))
  /-- A transaction is broadcast right after it was signed. -/
  | broadcast {earlier : List Occurrence} (calm : ∀ o ∈ earlier, o.deed.Calm) (call : FunctionCall)
      (signed : String) (wire : Wire) (url : String) (id : UInt64) {tries : List Occurrence}
      (again : ∀ o ∈ tries, o.deed =
        .post wire url (requestText id "broadcast_tx_commit" (.array [.string signed]))) :
    Due (earlier ++ [⟨.sign call, .ok signed⟩] ++ [⟨.number wire, id⟩] ++ tries)
      (.post wire url (requestText id "broadcast_tx_commit" (.array [.string signed])))

/-- A request is sent in a call: since a number was taken on its line, nothing was done but to send this same request,
and the number is in its text. -/
def InCall (past : List Occurrence) (deed : Deed) : Prop :=
  ∀ wire url request, deed = .post wire url request → ∃ earlier id method tries,
    past = earlier ++ [⟨.number wire, id⟩] ++ tries ∧ (∀ o ∈ tries, o.deed = deed) ∧
      headOf? request = some (id, method)

/-- Whatever is sent when it is due is sent in a call. -/
theorem Due.inCall {past : List Occurrence} {deed : Deed} (due : Due past deed) : InCall past deed := by
  intro wire url request sent
  cases due with
  | plain past plain =>
    subst sent
    exact absurd plain id
  | sign calm call => cases sent
  | ask earlier wire url id other regular again =>
    cases sent
    exact ⟨earlier, id, _, _, rfl, again, headOf?_requestText regular⟩
  | broadcast calm call signed wire url id again =>
    cases sent
    have regular : (Value.array [.string signed]).Regular := ⟨trivial, trivial⟩
    exact ⟨_, id, _, _, rfl, again, headOf?_requestText regular⟩

end Deed

/-- Only calm deeds were added. -/
def Adds (past now : List Occurrence) : Prop :=
  ∃ more, now = past ++ more ∧ ∀ o ∈ more, o.deed.Calm

namespace Adds

variable {past mid now : List Occurrence}

theorem refl (past : List Occurrence) : Adds past past :=
  ⟨[], (List.append_nil past).symm, fun _ h => absurd h List.not_mem_nil⟩

theorem trans (first : Adds past mid) (rest : Adds mid now) : Adds past now := by
  obtain ⟨more, rfl, calm⟩ := first
  obtain ⟨more', rfl, calm'⟩ := rest
  refine ⟨more ++ more', List.append_assoc _ _ _, fun o h => ?_⟩
  exact (List.mem_append.1 h).elim (calm o) (calm' o)

/-- If everything was calm before, it is afterwards. -/
theorem calm (added : Adds past now) (before : ∀ o ∈ past, o.deed.Calm) : ∀ o ∈ now, o.deed.Calm := by
  obtain ⟨more, rfl, calm⟩ := added
  intro o h
  exact (List.mem_append.1 h).elim (before o) (calm o)

end Adds

namespace Process

variable {α β : Type}

/-! ## Calm processes -/

/-- All that the process does is calm, and due whatever happened before. -/
def Calm (x : Process α) : Prop :=
  ∀ past, x.Heeds Deed.Due (fun now _ => Adds past now) past

/-- All that the process does is due if only calm deeds went before. -/
def Once (x : Process α) : Prop :=
  ∀ past, (∀ o ∈ past, o.deed.Calm) → x.Heeds Deed.Due (fun _ _ => True) past

theorem calm_gives (a : α) : Calm (gives a) :=
  fun past => Adds.refl past

/-- A plain deed is calm. -/
theorem calm_acts {deed : Deed} (plain : deed.Plain) : Calm (acts deed gives) := by
  intro past
  refine ⟨.plain past plain, fun answer => ?_⟩
  show Adds past (past ++ [⟨deed, answer⟩])
  refine ⟨[_], rfl, fun o h => ?_⟩
  obtain rfl := List.mem_singleton.1 h
  exact plain.calm

theorem Calm.once {x : Process α} (calm : Calm x) : Once x :=
  fun past _ => (calm past).mono fun _ _ _ => trivial

section

variable {x : ExceptT Error Process α} {f : α → ExceptT Error Process β}

theorem Calm.bind_run (first : Calm x.run) (rest : ∀ a, Calm (f a).run) : Calm (x >>= f).run := by
  intro past
  refine (first past).bind_run (fun mid a added => ?_) fun _ _ added => added
  exact (rest a mid).mono fun _ _ more => added.trans more

/-- What is calm may go before. -/
theorem Calm.once_bind (first : Calm x.run) (rest : ∀ a, Once (f a).run) : Once (x >>= f).run := by
  intro past calm
  refine (first past).bind_run (fun mid a added => ?_) fun _ _ _ => trivial
  exact rest a mid (added.calm calm)

/-- What is calm may follow. -/
theorem Once.bind_calm (first : Once x.run) (rest : ∀ a, Calm (f a).run) : Once (x >>= f).run := by
  intro past calm
  refine (first past calm).bind_run (fun mid a _ => ?_) fun _ _ _ => trivial
  exact (rest a mid).mono fun _ _ _ => trivial

theorem Calm.tryCatch {handle : Error → ExceptT Error Process α} (first : Calm x.run)
    (handled : ∀ e, Calm (handle e).run) : Calm (ExceptT.tryCatch x handle).run := by
  intro past
  refine (first past).tryCatch (fun _ _ added => added) fun mid e added => ?_
  exact (handled e mid).mono fun _ _ more => added.trans more

end

theorem calm_throw (e : Error) : Calm (throw e : ExceptT Error Process α).run :=
  calm_gives _

theorem calm_liftExcept (outcome : Except Error α) :
    Calm (liftExcept outcome : ExceptT Error Process α).run := by
  cases outcome <;> exact calm_gives _

/-- Attempts are calm if one attempt is. -/
theorem calm_attempts {admits : Error → Bool} {exhausted : Error} {x : ExceptT Error Process α}
    (calm : Calm x.run) (left : Nat) : Calm (attempts admits exhausted x left).run := by
  induction left with
  | zero => exact calm.tryCatch fun e => calm_throw _
  | succ left ih =>
    refine calm.tryCatch fun e => ?_
    cases admits e with
    | true => exact ih
    | false => exact calm_throw e

/-! ## Calls -/

/-- The request was sent some times, or never, and nothing else happened. -/
def Tries (stem : List Occurrence) (deed : Deed) (now : List Occurrence) : Prop :=
  ∃ tries, now = stem ++ tries ∧ ∀ o ∈ tries, o.deed = deed

theorem Tries.snoc {stem past : List Occurrence} {deed : Deed} (tried : Tries stem deed past)
    (answer : deed.Answer) : Tries stem deed (past ++ [⟨deed, answer⟩]) := by
  obtain ⟨tries, rfl, again⟩ := tried
  refine ⟨tries ++ [_], List.append_assoc _ _ _, fun o h => ?_⟩
  rcases List.mem_append.1 h with old | new
  · exact again o old
  · obtain rfl := List.mem_singleton.1 new
    rfl

/-- The request was sent at least once, nothing else happened, and the last reply tells the outcome. -/
def Sent (exhausted : Error) (stem : List Occurrence) (wire : Wire) (url request : String)
    (now : List Occurrence) (outcome : Except Error Value) : Prop :=
  ∃ past reply, Tries stem (.post wire url request) past ∧
    now = past ++ [⟨.post wire url request, reply⟩] ∧ outcome = reply.final exhausted

theorem Sent.tries {exhausted : Error} {stem now : List Occurrence} {wire : Wire} {url request : String}
    {outcome : Except Error Value} (sent : Sent exhausted stem wire url request now outcome) :
    Tries stem (.post wire url request) now := by
  obtain ⟨past, reply, tried, rfl, _⟩ := sent
  exact tried.snoc reply

variable {due : List Occurrence → Deed → Prop} {config : Config} {wire : Wire} {request : String}
  {stem past : List Occurrence}

/-- One attempt sends the request once. -/
theorem heeds_send (repeats : ∀ now, Tries stem (.post wire config.rpcUrl request) now →
      due now (.post wire config.rpcUrl request))
    (tried : Tries stem (.post wire config.rpcUrl request) past) :
    (((line wire).endpoint config).send request).run.Heeds due
      (fun now outcome => ∃ reply : Reply,
        now = past ++ [⟨.post wire config.rpcUrl request, reply⟩] ∧ outcome = reply.result) past := by
  refine ⟨repeats past tried, fun reply => ?_⟩
  show (liftExcept reply.result : ExceptT Error Process Value).run.Heeds _ _ _
  cases means : reply.result <;> exact ⟨reply, rfl, means.symm⟩

/-- Repetitions send the same request again. -/
theorem heeds_tries {exhausted : Error} (repeats : ∀ now,
      Tries stem (.post wire config.rpcUrl request) now →
      due now (.post wire config.rpcUrl request))
    (left : Nat) (tried : Tries stem (.post wire config.rpcUrl request) past) :
    (attempts Error.isRetryable exhausted (((line wire).endpoint config).send request)
      left).run.Heeds due (Sent exhausted stem wire config.rpcUrl request) past := by
  have last : ∀ {past} (reply : Reply) (outcome : Except Error Value),
      Tries stem (.post wire config.rpcUrl request) past → outcome = reply.result →
      Sent exhausted stem wire config.rpcUrl request
        (past ++ [⟨.post wire config.rpcUrl request, reply⟩])
        (outcome.mapError fun e => if e.isRetryable then exhausted else e) := by
    rintro past reply _ tried rfl
    exact ⟨past, reply, tried, rfl, rfl⟩
  -- on the attempts that are left: another one follows only an error that may go away
  induction left generalizing past with
  | zero =>
    refine (heeds_send repeats tried).tryCatch ?_ ?_
    · rintro _ v ⟨reply, rfl, means⟩
      exact last reply _ tried means
    · rintro _ e ⟨reply, rfl, means⟩
      exact last reply _ tried means
  | succ left ih =>
    refine (heeds_send repeats tried).tryCatch ?_ ?_
    · rintro _ v ⟨reply, rfl, means⟩
      exact last reply _ tried means
    · rintro _ e ⟨reply, rfl, means⟩
      cases again : e.isRetryable with
      | true => exact ih (tried.snoc reply)
      | false =>
        have final := last reply _ tried means
        rw [Except.mapError, again] at final
        exact final

/-- A call takes a number and sends one request, once or several times. The last reply tells its outcome. -/
theorem heeds_call {method : String} {params : Value} (numbers : due past (.number wire))
    (repeats : ∀ id now, Tries (past ++ [⟨.number wire, id⟩])
        (.post wire config.rpcUrl (requestText id method params)) now →
      due now (.post wire config.rpcUrl (requestText id method params))) :
    (((line wire).endpoint config).call method params).run.Heeds due
      (fun now outcome => ∃ id, Sent (.maxRetriesExceeded config.maxRetries.toNat)
        (past ++ [⟨.number wire, id⟩]) wire config.rpcUrl (requestText id method params) now outcome)
      past := by
  refine ⟨numbers, fun id => ?_⟩
  have none : Tries (past ++ [⟨.number wire, id⟩])
      (.post wire config.rpcUrl (requestText id method params)) (past ++ [⟨.number wire, id⟩]) :=
    ⟨[], (List.append_nil _).symm, fun _ h => absurd h List.not_mem_nil⟩
  exact (heeds_tries (repeats id) _ none).mono fun _ _ sent => ⟨id, sent⟩

/-- A call is calm unless it broadcasts. -/
theorem calm_call {method : String} {params : Value} (other : method ≠ "broadcast_tx_commit")
    (regular : params.Regular) : Calm (((line wire).endpoint config).call method params).run := by
  intro past
  refine (heeds_call (.plain past trivial) ?_).mono ?_
  · rintro id now ⟨tries, rfl, again⟩
    exact .ask past wire config.rpcUrl id other regular again
  · intro now outcome ⟨id, sent⟩
    obtain ⟨tries, rfl, again⟩ := sent.tries
    refine ⟨⟨.number wire, id⟩ :: tries, List.append_assoc _ _ _, fun o h => ?_⟩
    rcases List.mem_cons.1 h with rfl | sent
    · trivial
    · rw [again o sent]
      rintro ⟨id', head⟩
      rw [headOf?_requestText regular] at head
      exact other (Prod.mk.inj (Option.some.inj head)).2

/-- A view is calm. -/
theorem calm_view (read : Decoder α) (account method : String) (args : Value) :
    Calm (((line wire).endpoint config).view read account method args).run :=
  (calm_call (by decide) (regular_viewParams account method args)).bind_run
    fun _ => calm_liftExcept _

/-! ## The session -/

theorem calm_pending : Calm store.pending.run := by
  refine Calm.bind_run (calm_acts trivial) fun entry => ?_
  cases entry with
  | none => exact calm_gives _
  | some raw =>
    dsimp only
    cases CorrelationKey.ofText? raw <;> exact calm_gives _

theorem calm_loadKey : Calm store.loadKey.run :=
  calm_pending.bind_run fun key => by cases key <;> exact calm_gives _

theorem calm_recordResolved (id : UInt64) : Calm (store.recordResolved id).run :=
  calm_acts trivial

theorem calm_showField (key : CorrelationKey) : Calm (store.showField key).run := by
  unfold SessionStore.showField
  split
  · exact calm_gives _
  · split <;> exact calm_acts trivial

theorem calm_saveKey (key : CorrelationKey) : Calm (store.saveKey key).run :=
  calm_pending.bind_run fun _ => Calm.bind_run (calm_acts trivial) fun _ =>
    (calm_showField key).bind_run fun _ => calm_acts trivial

theorem calm_invalidate (token : Uuid) : Calm (store.invalidate token).run := by
  refine calm_pending.bind_run fun pending => ?_
  cases pending with
  | none => exact calm_gives _
  | some key =>
    dsimp only
    split
    · refine Calm.bind_run (calm_acts trivial) fun _ => ?_
      cases key.expectedKind.sessionEntry? with
      | none => exact calm_gives _
      | some entry => exact Calm.bind_run (calm_acts trivial) fun _ => calm_gives _
    · exact calm_gives _

/-! ## The deployed contract -/

/-- The deployed contract at the end of its line. -/
def dao (config : Config) (account : String) : Dao Process :=
  ⟨(line .dao).endpoint config, signer account, config⟩

variable {account : String}

/-- A call of the contract is signed and broadcast. -/
theorem once_call (method : String) (args : List (String × Value)) (gas : UInt64) (deposit : Amount) :
    Once ((dao config account).call method args gas deposit).run := by
  intro past calm
  refine ⟨.sign calm _, fun signed => ?_⟩
  cases signed with
  | error e => trivial
  | ok signed =>
    show (((line .dao).endpoint config).broadcast method signed).run.Heeds _ _ _
    refine (heeds_call (.plain _ trivial) ?_).bind_run ?_ fun _ _ _ => trivial
    · rintro id now ⟨tries, rfl, again⟩
      exact .broadcast calm _ signed .dao config.rpcUrl id again
    · intro now result _
      exact (calm_liftExcept _ now).mono fun _ _ _ => trivial

theorem once_submitProposal (input : ProposalInput) :
    Once ((dao config account).governance.submitProposal input).run :=
  (once_call _ _ _ _).bind_calm fun _ => calm_gives _

theorem once_vote (id : UInt64) (action : ProposalAction) :
    Once ((dao config account).governance.vote id action).run :=
  (once_call _ _ _ _).bind_calm fun _ => calm_gives _

theorem once_buyNft (contract rootId : String) (price : Amount) :
    Once ((dao config account).buyNft contract rootId price).run :=
  (calm_liftExcept _).once_bind fun _ => once_call _ _ _ _

theorem calm_price (contract rootId : String) :
    Calm ((dao config account).price contract rootId).run := by
  refine Calm.bind_run (calm_view _ _ _ _) fun listed => ?_
  cases listed with
  | none => exact calm_gives _
  | some text =>
    dsimp only
    cases Dao.readPrice text <;> exact calm_gives _

theorem once_buyListedNft (contract rootId : String) :
    Once ((dao config account).buyListedNft contract rootId).run := by
  refine (calm_price contract rootId).once_bind fun price => ?_
  cases price with
  | none => exact (calm_throw _).once
  | some price => exact once_buyNft contract rootId price

/-! ## Looking for proposals -/

theorem calm_listProposals (fromIndex limit : UInt64) :
    Calm ((dao config account).governance.listProposals fromIndex limit).run :=
  calm_view _ _ _ _

theorem calm_scanPages (options : ScanOptions) (key : CorrelationKey) (start : UInt64) (pages : Nat)
    (isFirst : Bool) (index : UInt64) (scanned : Nat) :
    Calm ((dao config account).governance.scanPages options key start pages isFirst index
      scanned).run := by
  induction pages generalizing isFirst index scanned with
  | zero => exact calm_throw _
  | succ pages ih =>
    unfold GovernanceContract.scanPages
    refine (calm_listProposals _ _).bind_run fun page => ?_
    cases GovernanceContract.verdict options key start isFirst scanned page with
    | some outcome => exact calm_liftExcept outcome
    | none => exact ih _ _ _

theorem calm_resolve (options : ScanOptions) (patience : Nat) (key : CorrelationKey) :
    Calm ((dao config account).governance.resolve options patience key).run :=
  calm_attempts (calm_scanPages options key _ _ _ _ _) patience

/-! ## The workflow -/

/-- The workflow over the deployed contract, for which any number of delays may be granted. -/
def workflow (config : Config) (account : String) (patience : Nat) : Workflow Process :=
  ⟨(dao config account).governance, store.session, config.scanOptions, patience, stamp⟩

variable {patience : Nat}

/-- What succeeds in any case does what it did. -/
theorem once_lift {x : Process α} (once : Once x) :
    Once (ExceptT.lift x : ExceptT Error Process α).run := by
  intro past calm
  refine Heeds.bind (once past calm) fun now a _ => ?_
  trivial

theorem once_submit (input : ProposalInput) :
    Once ((workflow config account patience).submit input).run := by
  refine Calm.once_bind (calm_view _ _ _ _) fun baseline => ?_
  refine Calm.once_bind (calm_acts trivial) fun (token, now) => ?_
  refine (calm_saveKey _).once_bind fun _ => ?_
  -- the submission is the only part that is signed; only its failure has deeds after it
  refine Once.bind_calm (once_lift (once_submitProposal input)) fun sent => ?_
  cases sent with
  | ok reportedId => exact calm_gives _
  | error e => exact (calm_invalidate token).bind_run fun _ => calm_throw e

theorem calm_resolvePending : Calm (workflow config account patience).resolvePending.run := by
  refine calm_loadKey.bind_run fun key => ?_
  refine (calm_resolve _ _ key).bind_run fun id => ?_
  refine (calm_invalidate key.token).bind_run fun _ => ?_
  exact (calm_recordResolved id).bind_run fun _ => calm_gives _

theorem once_submitAndResolve (input : ProposalInput) :
    Once ((workflow config account patience).submitAndResolve input).run :=
  (once_submit input).bind_calm fun _ => calm_resolvePending

end Process

end Governance
