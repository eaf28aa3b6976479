import Governance.Proofs.Contract.Register
import Governance.Proofs.Correlation.Kinds
import Governance.Proofs.Workflow.Submission

/-!
# Which ID a submission may resolve to

The scan for a submission begins before the baseline, so it can come upon a proposal that is older than the
submission. Nothing is asked of the contract here but that IDs are not assigned twice: calls may fail, pages
may leave proposals out, and the search may be repeated. Whatever a scan finds is then held by the contract
and matches the key (`Assigns.scanPages_ok`), and so is what looking again finds (`Assigns.resolve_ok`). Main
statement: the ID that a submission resolves to was not assigned before it, or is that of a look-alike which
the contract held when the baseline was read (`submitAndResolve_new_or_lookalike`).
-/

namespace Governance

namespace GovernanceContract

variable {σ : Type} {contract : GovernanceContract (StateM σ)} {register : σ → Register}
  {options : ScanOptions} {key : CorrelationKey}

/-! ## What is found -/

theorem le_nextIndex (index pageSize : UInt64) : index ≤ nextIndex index pageSize := by
  have bound : index.toNat < UInt64.size := index.toNat_lt
  rw [UInt64.le_iff_toNat_le, nextIndex_toNat]
  omega

/-- **What a scan finds is held, and matches.** The induction is on the pages that may still be read; in the
state `u` the page with the match was requested. -/
theorem Assigns.scanPages_ok (assigns : contract.Assigns register) (start : UInt64) (pages : Nat)
    (isFirst : Bool) (index : UInt64) (scanned : Nat) (s : σ) :
    (register s).Becomes
        (register (contract.scanPages options key start pages isFirst index scanned s).2) ∧
      ∀ id, (contract.scanPages options key start pages isFirst index scanned s).1 = .ok id →
        index ≤ id ∧ ∃ u, (register s).Becomes (register u) ∧
          ∃ p ∈ (register u).proposals, p.id = id ∧ key.Describes p := by
  induction pages generalizing isFirst index scanned s with
  | zero => exact ⟨.refl _, nofun⟩
  | succ pages ih =>
    have after := assigns.after_listProposals s index options.pageSize
    rcases asked : contract.listProposals index options.pageSize s with ⟨answer, t⟩
    rw [asked] at after
    cases answer with
    | error e =>
      rw [scanPages_error asked]
      exact ⟨after, nofun⟩
    | ok page =>
      rw [scanPages_page asked]
      cases decides : verdict options key start isFirst scanned page with
      | some outcome =>
        refine ⟨after, ?_⟩
        rintro id rfl
        obtain ⟨p, hp, place, described⟩ := verdict_eq_ok decides
        obtain ⟨here, lower⟩ := assigns.page s index _ page (by rw [asked]) p hp
        rw [place] at lower
        exact ⟨lower, s, .refl _, p, here, place, described⟩
      | none =>
        obtain ⟨rest, found⟩ := ih false (nextIndex index options.pageSize) (scanned + page.length) t
        refine ⟨after.trans rest, ?_⟩
        intro id hid
        obtain ⟨lower, u, later, matching⟩ := found id hid
        exact ⟨UInt64.le_trans (le_nextIndex _ _) lower, u, after.trans later, matching⟩

/-- What looking again finds is held, and matches. -/
theorem Assigns.resolve_ok (assigns : contract.Assigns register) {patience : Nat} {s : σ}
    {id : UInt64} (found : (contract.resolve options patience key s).1 = .ok id) :
    scanStart key.baseline options.window ≤ id ∧ ∃ u, (register s).Becomes (register u) ∧
      ∃ p ∈ (register u).proposals, p.id = id ∧ key.Describes p := by
  have keeps : ∀ v, (register s).Becomes (register v) →
      (register s).Becomes (register (contract.scan options key v).2) := by
    intro v later
    exact later.trans (assigns.scanPages_ok _ _ _ _ _ _).1
  obtain ⟨v, later, _, ⟨same, _⟩ | ⟨timeout, _⟩⟩ :=
    @attempts_last _ _ (contract.scan options key) s Error.isPending
      (.correlationTimeout options.timeout) _ keeps patience (.refl _)
  · rw [resolve, pollUntil, same] at found
    obtain ⟨lower, u, later', matching⟩ := (assigns.scanPages_ok _ _ _ _ _ _).2 id found
    exact ⟨lower, u, later.trans later', matching⟩
  · rw [resolve, pollUntil, timeout] at found
    cases found

end GovernanceContract

namespace Workflow

variable {σ τ ρ : Type} {contract : GovernanceContract (StateM σ)} {store : SessionStore (StateM τ)}
  {stamp : StateM ρ (Uuid × Timestamp)} {options : ScanOptions} {patience : Nat}
  {held : τ → StringMap String → Prop} {register : σ → Register}

/-! ## What the parts promise -/

/-- A part of a setting promises what it promises alone. -/
theorem assemble_assigns (assigns : contract.Assigns register) :
    (assemble contract store stamp options patience).contract.Assigns
      fun w => register w.contract where
  lastProposalId w := assigns.lastProposalId w.contract
  page w := assigns.page w.contract
  after_lastProposalId w := assigns.after_lastProposalId w.contract
  after_submitProposal w := assigns.after_submitProposal w.contract
  after_listProposals w := assigns.after_listProposals w.contract

/-- An action on the session mirrors what it mirrors alone, whatever state the rest is in. -/
theorem mirrors_session {α : Type} {x : ExceptT Error (StateM τ) α}
    {y : ExceptT Error (StateM (StringMap String)) α} (h : Mirrors held x y) :
    Mirrors (fun (w : Setting σ τ ρ) m => held w.session m)
      (ExceptT.mk (zoom Setting.session (fun t w => { w with session := t }) x.run)) y := by
  intro w m here
  obtain ⟨w', run, left, _⟩ := mirrors_zoom h w.contract w.stamps w m ⟨here, rfl, rfl⟩
  exact ⟨w', run, left⟩

theorem onSetting_keeps (keeps : store.Keeps held) :
    store.onSetting.Keeps fun (w : Setting σ τ ρ) m => held w.session m where
  kept := {
    get := fun name => mirrors_session (keeps.kept.get name)
    set := fun name value => mirrors_session (keeps.kept.set name value)
    remove := fun name => mirrors_session (keeps.kept.remove name) }
  readable w name text w' got := by
    rcases run : store.get name w.session with ⟨answer, t⟩
    have alone : store.onSetting.get name w = (answer, { w with session := t }) :=
      Setting.run_session run
    rw [alone] at got
    cases got
    exact keeps.readable _ _ _ _ run

/-! ## The two phases -/

/-- A submission that succeeded has read a baseline and left its key in the session. -/
theorem submit_of_ok (assigns : contract.Assigns register) (keeps : store.Keeps held)
    {input : ProposalInput} {w w' : Setting σ τ ρ} {pending : PendingProposal}
    (h : (assemble contract store stamp options patience).submit input w = (.ok pending, w')) :
    ∃ baseline m, (contract.lastProposalId w.contract).1 = .ok baseline ∧
      (register w.contract).Becomes (register w'.contract) ∧
      held w'.session (Session.saved (.forKind baseline input.kind (stamp w.stamps).1.1
        (stamp w.stamps).1.2) m) := by
  -- the baseline, the stamp, the saved key and the answer of the contract, one after the other
  obtain ⟨baseline, w₁, asked, h⟩ := run_bind_eq_ok h
  obtain ⟨⟨token, now⟩, w₂, stamped, h⟩ := run_bind_eq_ok h
  obtain ⟨_, w₃, saved, h⟩ := run_bind_eq_ok h
  obtain ⟨answer, w₄, sent, h⟩ := run_bind_eq_ok h
  have reported : (contract.lastProposalId w.contract).1 = .ok baseline := congrArg Prod.fst asked
  have asked_left : w₁ = { w with contract := (contract.lastProposalId w.contract).2 } :=
    (congrArg Prod.snd asked).symm
  have taken : (stamp w₁.stamps).1 = (token, now) := Except.ok.inj (congrArg Prod.fst stamped)
  have stamped_left : w₂ = { w₁ with stamps := (stamp w₁.stamps).2 } :=
    (congrArg Prod.snd stamped).symm
  have sent_left : w₄ = { w₃ with contract := (contract.submitProposal input w₃.contract).2 } :=
    (congrArg Prod.snd sent).symm
  -- saving works on the session only
  obtain ⟨m, readable, here, pendingKey⟩ :=
    (onSetting_keeps keeps).of_saveKey (congrArg Prod.fst saved)
  obtain ⟨w₃', saved', left, same, _⟩ :=
    (onSetting_keptAs keeps.kept w₂.contract w₂.stamps).saveKey _ w₂ m ⟨here, rfl, rfl⟩
  rw [SessionStore.memory_saveKey_ok pendingKey] at saved' left
  obtain rfl : w₃' = w₃ := congrArg Prod.snd (saved'.symm.trans saved)
  -- a refused submission would have failed
  have final : w' = w₄ := by
    cases answer with
    | ok id => exact (congrArg Prod.snd h).symm
    | error e =>
      obtain ⟨_, _, _, h⟩ := run_bind_eq_ok h
      cases h
  refine ⟨baseline, m, reported, ?_, ?_⟩
  · have first := assigns.after_lastProposalId w.contract
    have second := assigns.after_submitProposal w₃'.contract input
    rw [final, sent_left]
    rw [same, stamped_left, asked_left] at second
    rw [same, stamped_left, asked_left]
    exact first.trans second
  · rw [final, sent_left]
    rw [asked_left] at taken
    dsimp only at taken
    rw [taken]
    exact left

/-- If a pending key was resolved, its proposal was found. -/
theorem resolvePending_of_ok (kept : store.KeptAs held) {m : StringMap String} {key : CorrelationKey}
    {w w' : Setting σ τ ρ} {id : UInt64} (here : held w.session m)
    (pending : Session.pendingKey m = .ok (some key))
    (h : (assemble contract store stamp options patience).resolvePending w = (.ok id, w')) :
    ∃ w₁, w₁.contract = w.contract ∧
      ((assemble contract store stamp options patience).resolve key w₁).1 = .ok id := by
  obtain ⟨key', w₁, loaded, h⟩ := run_bind_eq_ok h
  obtain ⟨id', w₂, resolved, h⟩ := run_bind_eq_ok h
  obtain ⟨_, w₃, _, h⟩ := run_bind_eq_ok h
  obtain ⟨_, w₄, _, h⟩ := run_bind_eq_ok h
  obtain ⟨w₁', loaded', _, same, _⟩ :=
    (onSetting_keptAs kept w.contract w.stamps).loadKey w m ⟨here, rfl, rfl⟩
  rw [SessionStore.memory_loadKey_some pending] at loaded'
  obtain ⟨same_key, rfl⟩ := Prod.mk.inj (loaded.symm.trans loaded')
  obtain rfl : key' = key := Except.ok.inj same_key
  obtain rfl : id' = id := Except.ok.inj (congrArg Prod.fst h)
  exact ⟨w₁, same, by rw [resolved]⟩

/-- **A submission resolves to a new ID, or to that of an older look-alike.** If the whole course succeeds, the ID
it gives is at or above the baseline, or it is the ID of a proposal which the contract held when the baseline was
read, and which the key of the submission describes as well: it is in progress, of the same kind, and
has the same distinguishing fields. In any case it is not below the scan start. -/
theorem submitAndResolve_new_or_lookalike (assigns : contract.Assigns register)
    (keeps : store.Keeps held) {input : ProposalInput} {w w' : Setting σ τ ρ} {id : UInt64}
    (found : (assemble contract store stamp options patience).submitAndResolve input w =
      (.ok id, w')) :
    ∃ baseline key, (contract.lastProposalId w.contract).1 = .ok baseline ∧
      key = CorrelationKey.forKind baseline input.kind (stamp w.stamps).1.1 (stamp w.stamps).1.2 ∧
      scanStart baseline options.window ≤ id ∧
      (baseline ≤ id ∨ ∃ p ∈ (register w.contract).proposals, p.id = id ∧ key.Describes p) := by
  obtain ⟨_, w₁, submitted, resolved⟩ := run_bind_eq_ok found
  obtain ⟨baseline, m, reported, later, left⟩ := submit_of_ok assigns keeps submitted
  refine ⟨baseline, _, reported, rfl, ?_⟩
  generalize made : CorrelationKey.forKind baseline input.kind (stamp w.stamps).1.1
    (stamp w.stamps).1.2 = key at left
  have plain : key.fields.Plain := by
    rw [← made]
    exact input.kind.plain_fields
  have baseline_eq : key.baseline = baseline := by rw [← made]; rfl
  -- the key that is resolved is the one that was saved
  obtain ⟨w₂, same, resolved⟩ := resolvePending_of_ok keeps.kept left
    (Session.pendingKey_saved (CorrelationKey.ofText?_toText plain) m) resolved
  obtain ⟨lower, u, later', p, hp, place, described⟩ :=
    (assemble_assigns assigns).resolve_ok resolved
  rw [baseline_eq] at lower
  refine ⟨lower, ?_⟩
  rcases Nat.lt_or_ge id.toNat baseline.toNat with below | above
  · right
    -- an ID below the baseline was assigned when the baseline was read
    have assigned : p.id.toNat < (register w.contract).next := by
      have id_lt : id.toNat < UInt64.size := id.toNat_lt
      rw [place]
      rcases Nat.lt_or_ge (register w.contract).next UInt64.size with room | full
      · rw [← assigns.lastProposalId _ _ reported room]
        exact below
      · omega
    rw [same] at later'
    obtain ⟨q, hq, same_id, described'⟩ := (later.trans later').describes hp assigned described
    exact ⟨q, hq, same_id.trans place, described'⟩
  · exact .inl (UInt64.le_iff_toNat_le.2 above)

/-- On a ledger to which nobody else submits, a submission resolves to what the first scan finds. -/
theorem ledger_submitAndResolve {stamp : StateM ρ (Uuid × Timestamp)} {ps : List Proposal} {r : ρ}
    {input : ProposalInput} {key : CorrelationKey} {id : UInt64}
    (made : key = .forKind (.ofNat ps.length) input.kind (stamp r).1.1 (stamp r).1.2)
    (found : ((GovernanceContract.ledger fun _ => []).scan options key
      (GovernanceContract.record ps input)).1 = .ok id) :
    ∃ w', (assemble (GovernanceContract.ledger fun _ => []) SessionStore.memory stamp options
      patience).submitAndResolve input ⟨ps, .empty, r⟩ = (.ok id, w') := by
  have plain : key.fields.Plain := by
    rw [made]
    exact input.kind.plain_fields
  have asked : (GovernanceContract.ledger fun _ => []).lastProposalId ps =
      (.ok (.ofNat ps.length), ps) := rfl
  have sent : (GovernanceContract.ledger fun _ => []).submitProposal input ps =
      (.ok none, GovernanceContract.record ps input) := rfl
  obtain ⟨w₁, submitted, left, same⟩ := @submit_saves _ _ _ _ _ stamp options patience _ _
    SessionStore.memory_keptAs input ⟨ps, .empty, r⟩ _ rfl (Session.pendingKey_none rfl) _ _ _ _
    asked sent key made
  rw [← same] at found
  obtain ⟨w₂, resolved, _⟩ := @resolvePending_consumes _ _ _ _ _ stamp options patience _ _
    SessionStore.memory_keptAs w₁ left key
    (Session.pendingKey_saved (CorrelationKey.ofText?_toText plain) _) id found
  exact ⟨w₂, (run_bind_ok submitted).trans resolved⟩

/-- Someone has proposed the same before us. The scan begins two IDs before the baseline and comes upon that
proposal, which stays below the baseline. -/
theorem submitAndResolve_older_is_lookalike :
    let stamp : StateM Unit (Uuid × Timestamp) := pure (default, .epoch)
    let ps := [⟨"theirs", .mintRoot 7⟩].foldl GovernanceContract.record []
    (∃ w', (assemble (GovernanceContract.ledger fun _ => []) SessionStore.memory stamp .default
      0).submitAndResolve ⟨"ours", .mintRoot 7⟩ ⟨ps, .empty, ()⟩ = (.ok 0, w')) ∧
      ∃ p ∈ ps, p.id = 0 ∧ (CorrelationKey.forKind 1 (.mintRoot 7) default .epoch).Describes p := by
  intro stamp ps
  obtain ⟨w', found⟩ : ∃ w', (assemble (GovernanceContract.ledger fun _ => []) SessionStore.memory
      stamp .default 0).submitAndResolve ⟨"ours", .mintRoot 7⟩ ⟨ps, .empty, ()⟩ = (.ok 0, w') :=
    ledger_submitAndResolve rfl (by decide +kernel)
  obtain ⟨baseline, key, reported, rfl, _, above | older⟩ :=
    submitAndResolve_new_or_lookalike (GovernanceContract.ledger_assigns _)
      SessionStore.memory_keeps found
  · obtain rfl : (1 : UInt64) = baseline := Except.ok.inj reported
    exact absurd above (by decide)
  · obtain rfl : (1 : UInt64) = baseline := Except.ok.inj reported
    exact ⟨⟨w', found⟩, older⟩

/-- The contract reports 1 as the next ID and stores our submission under it; we are given 0. -/
theorem submitAndResolve_gives_id_below_baseline :
    let contract := GovernanceContract.ledger fun _ => []
    let stamp : StateM Unit (Uuid × Timestamp) := pure (default, .epoch)
    let ps := [⟨"theirs", .mintRoot 7⟩].foldl GovernanceContract.record []
    contract.Assigns .counting ∧ (contract.lastProposalId ps).1 = .ok 1 ∧
      (contract.submitProposal ⟨"ours", .mintRoot 7⟩ ps).2 =
        ps ++ [GovernanceContract.recorded 1 ⟨"ours", .mintRoot 7⟩] ∧
      (∃ w', (assemble contract SessionStore.memory stamp .default 0).submitAndResolve
        ⟨"ours", .mintRoot 7⟩ ⟨ps, .empty, ()⟩ = (.ok 0, w')) ∧ ¬ (1 : UInt64) ≤ 0 := by
  intro contract stamp ps
  refine ⟨GovernanceContract.ledger_assigns _, rfl, rfl, ?_, by decide⟩
  exact ledger_submitAndResolve rfl (by decide +kernel)

end Workflow

end Governance
