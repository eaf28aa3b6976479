import Governance.Proofs.Rpc.Signing
import Mathlib.Data.List.Nodup
import Mathlib.Logic.Function.Basic

/-!
# The traffic of a client

A client may carry out any number of operations at the same time (`Client.Operation`), each as a process of its own. In
one step of a run one process does a deed and gets an answer: the counter of a line gives numbers, and everything
else answers whatever it likes (`Traffic.Step`). So a run covers every script of replies and failures, every signer
and session, and every way in which the operations take turns.

Every deed in a run was due when it was done (`Traffic.Run.orderly`), and numbers are counted
(`Traffic.Run.numbers_eq`). Main statement: in an operation the signer is asked at most once, all broadcasts are the
same request for what the signer gave, and every request has the number of its call, which no other call on the
line has (`Traffic.Run.signed_once`).
-/

namespace Governance

open Json Rpc

/-! ## Operations -/

/-- The endpoint at the end of a line. -/
def Client.endpoint {m : Type → Type} (client : Client m) : Wire → Endpoint m
  | .dao => client.dao.endpoint
  | .minting => client.minting

/-- What a program does with a client. -/
inductive Client.Operation : Type 1
  | submit (input : ProposalInput)
  | submitAndResolve (input : ProposalInput)
  | vote (id : UInt64) (action : ProposalAction)
  | approve (id : UInt64)
  | buyNft (contract rootId : String) (price : Amount)
  | buyListedNft (contract rootId : String)
  | resolvePending
  | resolve (key : CorrelationKey)
  /-- A view of any contract. -/
  | view {α : Type} (wire : Wire) (read : Decoder α) (account method : String) (args : Value)
  | nftMetadata (contract tokenId : String)
  | healthCheck (wire : Wire)
  /-- Broadcasts what was signed elsewhere. -/
  | broadcast (wire : Wire) (method transaction : String)

namespace Client.Operation

/-- Carries an action out, whatever it gives. -/
def ignoring {m : Type → Type} [Monad m] {α : Type} (x : ExceptT Error m α) : m Unit := do
  let _ ← x.run

/-- Carries an operation out, whatever it gives. If it looks for a proposal, so many delays are granted. -/
def perform {m : Type → Type} [Monad m] (client : Client m) (patience : Nat) : Operation → m Unit
  | submit input => ignoring ((client.workflow patience).submit input)
  | submitAndResolve input => ignoring ((client.workflow patience).submitAndResolve input)
  | vote id action => ignoring ((client.workflow patience).vote id action)
  | approve id => ignoring ((client.workflow patience).approve id)
  | buyNft contract rootId price => ignoring (client.dao.buyNft contract rootId price)
  | buyListedNft contract rootId => ignoring (client.dao.buyListedNft contract rootId)
  | resolvePending => ignoring (client.workflow patience).resolvePending
  | resolve key => ignoring ((client.workflow patience).resolve key)
  | view wire read account method args =>
    ignoring ((client.endpoint wire).view read account method args)
  | nftMetadata contract tokenId => ignoring (client.minting.nftMetadata contract tokenId)
  | healthCheck wire => ignoring (client.endpoint wire).healthCheck
  | broadcast wire method transaction =>
    ignoring ((client.endpoint wire).broadcast method transaction)

/-- Whether an operation broadcasts what was signed elsewhere. -/
def Forwards : Operation → Prop
  | broadcast _ _ _ => True
  | _ => False

end Client.Operation

namespace Process

variable {α : Type} {config : Config} {account : String}

/-- The client of a configuration whose parts are deeds. -/
def client (config : Config) (account : String) : Client Process :=
  ⟨config, dao config account, (line .minting).endpoint config, workflow config account⟩

/-- If the configuration is accepted, this is the client that it makes. -/
theorem eq_client {made : Client Process}
    (h : Client.ofConfig config (line .dao) (line .minting) (signer account) store stamp = .ok made) :
    made = client config account := by
  unfold Client.ofConfig at h
  cases valid : config.validate with
  | error e =>
    rw [valid] at h
    cases h
  | ok _ =>
    rw [valid] at h
    exact (Except.ok.inj h).symm

open Client.Operation (ignoring)

theorem once_ignoring {x : ExceptT Error Process α} (once : Once x.run) : Once (ignoring x) := by
  intro past calm
  exact (once past calm).bind fun now outcome _ => trivial

/-- Every operation that has what it broadcasts signed itself observes the rule, however long it looks. -/
theorem once_perform {op : Client.Operation} (own : ¬ op.Forwards) (patience : Nat) :
    Once (op.perform (client config account) patience) := by
  cases op with
  | submit input => exact once_ignoring (once_submit input)
  | submitAndResolve input => exact once_ignoring (once_submitAndResolve input)
  | vote id action => exact once_ignoring (once_vote id action)
  | approve id => exact once_ignoring (once_vote id .approve)
  | buyNft contract rootId price => exact once_ignoring (once_buyNft contract rootId price)
  | buyListedNft contract rootId => exact once_ignoring (once_buyListedNft contract rootId)
  | resolvePending => exact once_ignoring calm_resolvePending.once
  | resolve key => exact once_ignoring (calm_resolve _ _ key).once
  | view wire read account method args =>
    cases wire <;> exact once_ignoring (calm_view read account method args).once
  | nftMetadata contract tokenId =>
    exact once_ignoring ((calm_view _ _ _ _).bind_run fun _ => calm_gives _).once
  | healthCheck wire =>
    have regular : (Value.array []).Regular := trivial
    cases wire <;>
      exact once_ignoring ((calm_call (by decide) regular).bind_run fun _ => calm_gives _).once
  | broadcast wire method transaction => exact absurd trivial own

/-- A transaction that was signed elsewhere is sent in a call. -/
theorem inCall_broadcast (wire : Wire) (method transaction : String) :
    (((line wire).endpoint config).broadcast method transaction).run.Heeds Deed.InCall
      (fun _ _ => True) [] := by
  have regular : (Value.array [.string transaction]).Regular := ⟨trivial, trivial⟩
  refine (heeds_call (fun _ _ _ same => by cases same) ?_).bind_run ?_ fun _ _ _ => trivial
  · rintro id now ⟨tries, rfl, again⟩ wire url request sent
    cases sent
    exact ⟨[], id, _, tries, rfl, again, headOf?_requestText regular⟩
  · intro now result _
    cases committed method result <;> trivial

/-- Every operation sends its requests in calls. -/
theorem inCall_perform (op : Client.Operation) (patience : Nat) :
    (op.perform (client config account) patience).Heeds Deed.InCall (fun _ _ => True) [] := by
  by_cases own : op.Forwards
  · cases op with
    | broadcast wire method transaction =>
      cases wire <;>
        exact (inCall_broadcast _ method transaction).bind fun now outcome _ => trivial
    | _ => exact absurd own id
  · have once := @once_perform config account op own patience [] fun _ h =>
      absurd h List.not_mem_nil
    exact once.imp fun past deed => Deed.Due.inCall

end Process

/-! ## Runs -/

namespace Traffic

/-- What happened, and in which operation. -/
abbrev Trace := List (Nat × Occurrence)

/-- What happened in one operation. -/
def Trace.of (T : Trace) (i : Nat) : List Occurrence :=
  T.filterMap fun (j, o) => if j = i then some o else none

/-- The number that was taken on a line. -/
def numberOn (wire : Wire) : Occurrence → Option UInt64
  | ⟨.number wire', id⟩ => if wire' = wire then some id else none
  | _ => none

/-- The numbers that calls on a line took. -/
def Trace.numbers (T : Trace) (wire : Wire) : List UInt64 :=
  T.filterMap fun (_, o) => numberOn wire o

/-- The counters of the lines, and what is left of each operation. -/
structure Scene where
  next : Wire → UInt64
  left : Nat → Process Unit

/-- What may be answered, and how the counters are then. -/
def Answered : (deed : Deed) → deed.Answer → (next next' : Wire → UInt64) → Prop
  | .number wire, id, next, next' =>
    (id, next' wire) = takeId (next wire) ∧ ∀ wire' ≠ wire, next' wire' = next wire'
  | _, _, next, next' => next' = next

/-- A step of one operation. -/
inductive Step (c : Scene) (i : Nat) : Occurrence → Scene → Prop
  | acts (deed : Deed) (answer : deed.Answer) {resume : deed.Answer → Process Unit}
      {next' : Wire → UInt64} (waits : c.left i = .acts deed resume)
      (answered : Answered deed answer c.next next') :
    Step c i ⟨deed, answer⟩ ⟨next', Function.update c.left i (resume answer)⟩

/-- What happened since a client began its operations, and how things stand then. How many delays are granted to
each operation is open. -/
inductive Run (client : Client Process) (tasks : Nat → Client.Operation) (first : Wire → UInt64) :
    Trace → Scene → Prop
  | start (patience : Nat → Nat) :
    Run client tasks first [] ⟨first, fun i => (tasks i).perform client (patience i)⟩
  | step {T : Trace} {c c' : Scene} {i : Nat} {o : Occurrence} (before : Run client tasks first T c)
      (last : Step c i o c') : Run client tasks first (T ++ [(i, o)]) c'

namespace Trace

theorem of_snoc_self (T : Trace) (i : Nat) (o : Occurrence) : (T ++ [(i, o)]).of i = T.of i ++ [o] := by
  simp [of, List.filterMap_append]

theorem of_snoc_other (T : Trace) {i j : Nat} (other : j ≠ i) (o : Occurrence) :
    (T ++ [(j, o)]).of i = T.of i := by
  simp [of, List.filterMap_append, other]

theorem numbers_snoc (T : Trace) (wire : Wire) (i : Nat) (o : Occurrence) :
    (T ++ [(i, o)]).numbers wire = T.numbers wire ++ (numberOn wire o).toList := by
  rw [numbers, List.filterMap_append]
  cases numbered : numberOn wire o <;> simp [numbered, numbers]

end Trace

/-! ## What was due -/

/-- Every deed was due when it was done. -/
inductive Orderly (due : List Occurrence → Deed → Prop) : List Occurrence → Prop
  | nil : Orderly due []
  | snoc {past : List Occurrence} {deed : Deed} (before : Orderly due past) (now : due past deed)
      (answer : deed.Answer) : Orderly due (past ++ [⟨deed, answer⟩])

/-- A deed was due after what was done before it. -/
theorem Orderly.at {due : List Occurrence → Deed → Prop} {os before after : List Occurrence}
    {o : Occurrence} (h : Orderly due os) (split : os = before ++ o :: after) :
    due before o.deed := by
  induction h generalizing after with
  | nil => exact absurd split (by simp)
  | @snoc past deed _ now answer ih =>
    rcases List.eq_nil_or_concat after with rfl | ⟨rest, last, rfl⟩
    · obtain ⟨rfl, same⟩ := List.append_inj' split rfl
      cases same
      exact now
    · rw [List.concat_eq_append, ← List.cons_append, ← List.append_assoc] at split
      exact ih (List.append_inj' split rfl).1

variable {client : Client Process} {tasks : Nat → Client.Operation} {first : Wire → UInt64}
  {T : Trace} {c : Scene}

/-- **A rule that an operation observes is observed in every run**, however the operations take turns: what was done
was due, and what is left observes the rule. -/
theorem Run.orderly {due : List Occurrence → Deed → Prop} (run : Run client tasks first T c) {i : Nat}
    (rule : ∀ patience, ((tasks i).perform client patience).Heeds due (fun _ _ => True) []) :
    Orderly due (T.of i) ∧ (c.left i).Heeds due (fun _ _ => True) (T.of i) := by
  induction run with
  | start patience => exact ⟨.nil, rule (patience i)⟩
  | @step T c c' j o before last ih =>
    cases last with
    | acts deed answer waits answered =>
      by_cases own : j = i
      · subst own
        rw [Trace.of_snoc_self]
        rw [waits] at ih
        refine ⟨.snoc ih.1 ih.2.1 answer, ?_⟩
        show Process.Heeds _ _ _ (Function.update c.left j _ j)
        rw [Function.update_self]
        exact ih.2.2 answer
      · -- the step was another operation's
        rw [Trace.of_snoc_other T own]
        refine ⟨ih.1, ?_⟩
        show Process.Heeds _ _ _ (Function.update c.left j _ i)
        rw [Function.update_of_ne (Ne.symm own)]
        exact ih.2

/-- An operation that waits may get any answer. -/
theorem Run.acts (run : Run client tasks first T c) (i : Nat) (deed : Deed) (answer : deed.Answer)
    {resume : deed.Answer → Process Unit} {next' : Wire → UInt64}
    (waits : c.left i = .acts deed resume) (answered : Answered deed answer c.next next') :
    ∃ c', Run client tasks first (T ++ [(i, ⟨deed, answer⟩)]) c' ∧ c'.next = next' ∧
      c'.left i = resume answer :=
  ⟨_, run.step (.acts deed answer waits answered), rfl, Function.update_self i _ _⟩

/-! ## One signature -/

/-- The calls that the signer was asked to sign. -/
def signings (os : List Occurrence) : List FunctionCall :=
  os.filterMap fun o =>
    match o.deed with
    | .sign call => some call
    | _ => none

/-- What was signed and broadcast in one operation. -/
structure SignedOnce (os : List Occurrence) : Prop where
  /-- The signer was asked for one call at most. -/
  signings : (signings os).length ≤ 1
  /-- All broadcasts are the same request, for what the signer gave. -/
  broadcasts : ∃ id signed, ∀ o ∈ os, ∀ wire url request, o.deed = .post wire url request →
    Broadcasts request → request = requestText id "broadcast_tx_commit" (.array [.string signed]) ∧
      ∃ call, ⟨.sign call, .ok signed⟩ ∈ os

theorem signings_calm {os : List Occurrence} (calm : ∀ o ∈ os, o.deed.Calm) : signings os = [] := by
  refine List.filterMap_eq_nil_iff.2 fun o ho => ?_
  have := calm o ho
  cases deed : o.deed with
  | sign call =>
    rw [deed] at this
    exact absurd this id
  | _ => rfl

/-- What is not signed does not count. -/
theorem signings_snoc {os : List Occurrence} {o : Occurrence} (other : ∀ call, o.deed ≠ .sign call) :
    signings (os ++ [o]) = signings os := by
  rw [signings, List.filterMap_append]
  cases deed : o.deed with
  | sign call => exact absurd deed (other call)
  | _ => simp [signings, deed]

/-- One more request that is no broadcast, or no request, changes nothing. -/
theorem SignedOnce.snoc {os : List Occurrence} {o : Occurrence} (h : SignedOnce os)
    (unsigned : ∀ call, o.deed ≠ .sign call)
    (other : ∀ wire url request, o.deed = .post wire url request → ¬ Broadcasts request) :
    SignedOnce (os ++ [o]) := by
  obtain ⟨id, signed, same⟩ := h.broadcasts
  refine ⟨by rw [signings_snoc unsigned]; exact h.signings, id, signed, ?_⟩
  intro o' ho' wire url request sent broadcast
  rcases List.mem_append.1 ho' with old | new
  · obtain ⟨text, call, asked⟩ := same o' old wire url request sent broadcast
    exact ⟨text, call, List.mem_append_left _ asked⟩
  · obtain rfl := List.mem_singleton.1 new
    exact absurd broadcast (other wire url request sent)

/-- Who only does what is due has at most one call signed, and broadcasts what the signer gave. -/
theorem Orderly.signedOnce {os : List Occurrence} (h : Orderly Deed.Due os) : SignedOnce os := by
  induction h with
  | nil => exact ⟨Nat.zero_le 1, 0, "", fun _ h => absurd h List.not_mem_nil⟩
  | @snoc past deed _ now answer ih =>
    cases now with
    | plain _ plain =>
      refine ih.snoc ?_ ?_
      · rintro call rfl
        exact plain
      · rintro wire url request rfl
        exact absurd plain id
    | sign calm call =>
      -- nothing was signed or broadcast so far
      refine ⟨?_, 0, "", ?_⟩
      · have none := signings_calm calm
        rw [signings] at none
        rw [signings, List.filterMap_append, none]
        exact Nat.le_refl 1
      · intro o ho wire url request sent broadcast
        rcases List.mem_append.1 ho with old | new
        · have := calm o old
          rw [sent] at this
          exact absurd broadcast this
        · obtain rfl := List.mem_singleton.1 new
          cases sent
    | ask earlier wire url id other regular again =>
      refine ih.snoc (fun call same => by cases same) ?_
      rintro wire' url' request sent ⟨id', head⟩
      cases sent
      rw [headOf?_requestText regular] at head
      exact other (Prod.mk.inj (Option.some.inj head)).2
    | @broadcast earlier calm call signed wire url id tries again =>
      refine ⟨?_, id, signed, ?_⟩
      · rw [signings_snoc fun call same => by cases same]
        exact ih.signings
      · intro o ho wire' url' request sent broadcast
        refine ⟨?_, call, by simp⟩
        simp only [List.mem_append, List.mem_singleton] at ho
        rcases ho with (((old | rfl) | rfl) | earlier) | rfl
        · have := calm o old
          rw [sent] at this
          exact absurd broadcast this
        · cases sent
        · cases sent
        · rw [again o earlier] at sent
          cases sent
          rfl
        · cases sent
          rfl

/-! ## Numbers -/

/-- A number on a line is what the counter held, which goes on by one; nothing else moves it. -/
theorem Answered.number_cases {deed : Deed} {answer : deed.Answer} {next next' : Wire → UInt64}
    (h : Answered deed answer next next') (wire : Wire) :
    (numberOn wire ⟨deed, answer⟩ = none ∧ next' wire = next wire) ∨
      (numberOn wire ⟨deed, answer⟩ = some (next wire) ∧ next' wire = next wire + 1) := by
  cases deed with
  | number wire' =>
    obtain ⟨taken, others⟩ := h
    obtain ⟨rfl, counted⟩ := Prod.mk.inj taken
    by_cases same : wire' = wire
    · subst same
      exact .inr ⟨if_pos rfl, counted⟩
    · exact .inl ⟨if_neg same, others wire (Ne.symm same)⟩
  | _ => exact .inl ⟨rfl, congrFun h wire⟩

/-- The numbers on a line are counted from the first, and the counter holds the next one. -/
theorem Run.numbers_eq (run : Run client tasks first T c) (wire : Wire) :
    T.numbers wire =
      (List.range (T.numbers wire).length).map (fun k => first wire + UInt64.ofNat k) ∧
    c.next wire = first wire + UInt64.ofNat (T.numbers wire).length := by
  induction run with
  | start => exact ⟨rfl, (UInt64.add_zero _).symm⟩
  | @step T c c' i o before last ih =>
    cases last with
    | acts deed answer waits answered =>
      obtain ⟨counted, held⟩ := ih
      rw [Trace.numbers_snoc]
      rcases answered.number_cases wire with ⟨none, same⟩ | ⟨taken, more⟩
      · rw [none, Option.toList_none, List.append_nil]
        exact ⟨counted, same.trans held⟩
      · rw [taken, Option.toList_some, List.length_append, List.length_singleton, List.range_succ,
          List.map_append, ← counted, List.map_singleton, ← held]
        refine ⟨rfl, more.trans ?_⟩
        rw [held, UInt64.add_assoc]
        congr 1
        exact (UInt64.ofNat_add _ 1).symm

/-- No number is taken twice before all are used up. -/
theorem Run.numbers_nodup (run : Run client tasks first T c) (wire : Wire)
    (few : (T.numbers wire).length ≤ UInt64.size) : (T.numbers wire).Nodup := by
  rw [(run.numbers_eq wire).1]
  refine List.Nodup.map_on ?_ List.nodup_range
  intro j hj k hk same
  rw [List.mem_range] at hj hk
  have offset : (UInt64.ofNat j).toNat = (UInt64.ofNat k).toNat :=
    congrArg UInt64.toNat ((UInt64.add_right_inj _).1 same)
  rw [UInt64.toNat_ofNat', UInt64.toNat_ofNat', Nat.mod_eq_of_lt (Nat.lt_of_lt_of_le hj few),
    Nat.mod_eq_of_lt (Nat.lt_of_lt_of_le hk few)] at offset
  exact offset

/-! ## The traffic of a client -/

/-- **One signature, one number.** A client may carry out any operations at the same time, and one that looks for a
proposal may look again any number of times. In each of them the signer is asked for one call at most, and all
broadcasts, repetitions included, are the same request for what the signer gave (unless what is broadcast was
signed elsewhere). Every request is sent in a call: since the call took its number, nothing was sent but this same
request, which tells the number. As long as there are numbers left, different calls on a line have different
ones. -/
theorem Run.signed_once {config : Config} {account : String}
    (made : Client.ofConfig config (Process.line .dao) (Process.line .minting)
      (Process.signer account) Process.store Process.stamp = .ok client)
    (run : Run client tasks first T c) :
    (∀ i, ¬ (tasks i).Forwards → SignedOnce (T.of i)) ∧
    (∀ i before o after, T.of i = before ++ o :: after → o.deed.InCall before) ∧
    ∀ wire, (T.numbers wire).length ≤ UInt64.size → (T.numbers wire).Nodup := by
  obtain rfl := Process.eq_client made
  refine ⟨?signed, ?called, fun wire few => run.numbers_nodup wire few⟩
  case signed =>
    intro i own
    refine (run.orderly fun patience => ?_).1.signedOnce
    exact Process.once_perform own patience [] fun _ h => absurd h List.not_mem_nil
  case called =>
    intro i before o after split
    exact (run.orderly (Process.inCall_perform (tasks i))).1.at split

/-- A vote whose broadcast is sent twice, since nothing comes back for it at first: one signature, one number, and
the same request both times. -/
theorem vote_repeated :
    let config := Config.ofNetwork .testnet "dao.near"
    let call : FunctionCall := ⟨"dao.near", "act_proposal",
      .record [("id", .nat 5), ("action", .string "VoteApprove")], config.voteGas, default⟩
    let post := Deed.post .dao config.rpcUrl
      (requestText 1 "broadcast_tx_commit" (.array [.string "signed"]))
    ∃ client T c, Client.ofConfig config (Process.line .dao) (Process.line .minting)
        (Process.signer "me.near") Process.store Process.stamp = .ok client ∧
      Run client (fun _ => .approve 5) (fun _ => 1) T c ∧
      (T.of 0).map Occurrence.deed = [.sign call, .number .dao, post, post] ∧
      SignedOnce (T.of 0) := by
  intro config call post
  have valid : config.validate = .ok () := by decide +kernel
  have made : Client.ofConfig config (Process.line .dao) (Process.line .minting)
      (Process.signer "me.near") Process.store Process.stamp =
        .ok (Process.client config "me.near") := by
    unfold Client.ofConfig
    rw [valid]
    rfl
  have begun : Run (Process.client config "me.near") (fun _ => .approve 5) (fun _ => 1) [] _ :=
    .start fun _ => 0
  obtain ⟨c₁, run₁, next₁, left₁⟩ := begun.acts 0 (.sign call) (.ok "signed") rfl rfl
  have counted : Answered (.number .dao) (1 : UInt64) c₁.next (Function.update c₁.next .dao 2) := by
    rw [next₁]
    exact ⟨rfl, fun wire other => Function.update_of_ne other _ _⟩
  obtain ⟨c₂, run₂, _, left₂⟩ := run₁.acts 0 (.number .dao) 1 left₁ counted
  obtain ⟨c₃, run₃, _, left₃⟩ := run₂.acts 0 post .failed left₂ rfl
  obtain ⟨c₄, run₄, _⟩ := run₃.acts 0 post .failed left₃ rfl
  refine ⟨_, _, c₄, made, run₄, rfl, ?_⟩
  exact (run₄.signed_once made).1 0 id

end Traffic

end Governance
