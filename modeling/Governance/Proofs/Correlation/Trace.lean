import Governance.Proofs.Contract.Log
import Governance.Proofs.Correlation.Matching

/-!
# The requests of a scan

A scan is followed against a contract of which nothing is known: pages may have any length and hold any
IDs, answers may change from call to call, and any call may fail. `ScanRun` says step by step how answers
lead to an outcome, one constructor for each way a round of the loop ends; `scanPages_run` shows that this is
what the loop does, and which requests it makes. Main statement: the requests of one scan are consecutive
pages, all but the last one full and without a match, and the last one decides (`scan_trace`).
-/

namespace Governance

/-! ## Where pages begin -/

/-- Where a page begins: as many pages after the start as came before it, as far as 64 bits go. -/
def pageIndex (start pageSize : UInt64) (i : Nat) : UInt64 :=
  UInt64.ofNat (min (start.toNat + i * pageSize.toNat) (UInt64.size - 1))

theorem pageIndex_toNat (start pageSize : UInt64) (i : Nat) :
    (pageIndex start pageSize i).toNat =
      min (start.toNat + i * pageSize.toNat) (UInt64.size - 1) := by
  rw [pageIndex, UInt64.toNat_ofNat']
  exact Nat.mod_eq_of_lt (Nat.lt_of_le_of_lt (Nat.min_le_right _ _) (by decide))

/-- The first page begins at the start. -/
theorem pageIndex_zero (start pageSize : UInt64) : pageIndex start pageSize 0 = start := by
  have bound : start.toNat < UInt64.size := start.toNat_lt
  refine UInt64.toNat_inj.1 ?_
  rw [pageIndex_toNat, Nat.zero_mul, Nat.add_zero, Nat.min_eq_left (by omega)]

/-- The pages after the first are the pages from the next index on. -/
theorem pageIndex_succ (start pageSize : UInt64) (i : Nat) :
    pageIndex start pageSize (i + 1) = pageIndex (nextIndex start pageSize) pageSize i := by
  refine UInt64.toNat_inj.1 ?_
  rw [pageIndex_toNat, pageIndex_toNat, nextIndex_toNat, Nat.succ_mul]
  omega

/-- The requests for consecutive pages, with their answers. -/
def pageCalls (start pageSize : UInt64) (answers : List (Except Error (List Proposal))) :
    List ContractCall :=
  answers.mapIdx fun i answer => .list (pageIndex start pageSize i) pageSize answer

theorem pageCalls_cons (start pageSize : UInt64) (answer : Except Error (List Proposal))
    (answers : List (Except Error (List Proposal))) :
    pageCalls start pageSize (answer :: answers) =
      .list start pageSize answer :: pageCalls (nextIndex start pageSize) pageSize answers := by
  simp only [pageCalls, List.mapIdx_cons, pageIndex_zero, pageIndex_succ]

/-! ## How answers lead to an outcome -/

/-- What a scan that may still read `pages` pages comes to on a sequence of answers. -/
inductive ScanRun (options : ScanOptions) (key : CorrelationKey) (start : UInt64) :
    (pages : Nat) → (isFirst : Bool) → (scanned : Nat) →
    List (Except Error (List Proposal)) → Except Error UInt64 → Prop
  /-- No page may be read. -/
  | exhausted {isFirst : Bool} {scanned : Nat} :
    ScanRun options key start 0 isFirst scanned [] (.error (.windowExhausted start options.maxPages))
  /-- The contract fails. -/
  | failed {pages : Nat} {isFirst : Bool} {scanned : Nat} {e : Error} :
    ScanRun options key start (pages + 1) isFirst scanned [.error e] (.error e)
  /-- A page decides. -/
  | decided {pages : Nat} {isFirst : Bool} {scanned : Nat} {page : List Proposal}
      {outcome : Except Error UInt64} :
    GovernanceContract.verdict options key start isFirst scanned page = some outcome →
    ScanRun options key start (pages + 1) isFirst scanned [.ok page] outcome
  /-- A page leaves the outcome open, and the next one is read. -/
  | passed {pages : Nat} {isFirst : Bool} {scanned : Nat} {page : List Proposal}
      {answers : List (Except Error (List Proposal))} {outcome : Except Error UInt64} :
    GovernanceContract.verdict options key start isFirst scanned page = none →
    ScanRun options key start pages false (scanned + page.length) answers outcome →
    ScanRun options key start (pages + 1) isFirst scanned (.ok page :: answers) outcome

namespace GovernanceContract

variable {σ : Type}

/-- The loop makes the requests for consecutive pages, and comes to what their answers lead to; the log
changes nothing. -/
theorem scanPages_run (contract : GovernanceContract (StateM σ)) (options : ScanOptions)
    (key : CorrelationKey) (start : UInt64) (pages : Nat) (isFirst : Bool) (index : UInt64)
    (scanned : Nat) (s : σ) :
    ∃ answers outcome t,
      contract.scanPages options key start pages isFirst index scanned s = (outcome, t) ∧
      (∀ log, contract.logged.scanPages options key start pages isFirst index scanned (s, log) =
        (outcome, (t, log ++ pageCalls index options.pageSize answers))) ∧
      ScanRun options key start pages isFirst scanned answers outcome := by
  induction pages generalizing isFirst index scanned s with
  | zero =>
    refine ⟨[], _, s, rfl, fun log => ?_, .exhausted⟩
    rw [pageCalls, List.mapIdx_nil, List.append_nil]
    rfl
  | succ pages ih =>
    -- the first request is the first entry of the log, whatever its answer leads to
    rcases asked : contract.listProposals index options.pageSize s with ⟨answer, t⟩
    have noted := logged_listProposals asked
    cases answer with
    | error e =>
      refine ⟨[.error e], .error e, t, scanPages_error asked, fun log => ?_, .failed⟩
      rw [scanPages_error (noted log), pageCalls_cons]
      rfl
    | ok page =>
      cases decides : verdict options key start isFirst scanned page with
      | some outcome =>
        refine ⟨[.ok page], outcome, t, ?_, fun log => ?_, .decided decides⟩
        · rw [scanPages_page asked, decides]
        · rw [scanPages_page (noted log), decides, pageCalls_cons]
          rfl
      | none =>
        obtain ⟨answers, outcome, u, plain, withLog, rest⟩ :=
          ih false (nextIndex index options.pageSize) (scanned + page.length) t
        refine ⟨.ok page :: answers, outcome, u, ?_, fun log => ?_, .passed decides rest⟩
        · rw [scanPages_page asked, decides]
          exact plain
        · rw [scanPages_page (noted log), decides, pageCalls_cons]
          dsimp only
          rw [withLog, List.append_assoc, List.singleton_append]

end GovernanceContract

/-! ## What a run says -/

/-- How many proposals the pages among some answers hold. -/
def listedIn : List (Except Error (List Proposal)) → Nat
  | [] => 0
  | .ok page :: answers => page.length + listedIn answers
  | .error _ :: answers => listedIn answers

namespace ScanRun

open GovernanceContract (verdict_eq_none_iff verdict_cases)

variable {options : ScanOptions} {key : CorrelationKey} {start : UInt64} {pages scanned : Nat}
  {isFirst : Bool} {answers : List (Except Error (List Proposal))} {outcome : Except Error UInt64}

/-- No more pages are read than are allowed. -/
theorem length_le (h : ScanRun options key start pages isFirst scanned answers outcome) :
    answers.length ≤ pages := by
  induction h with
  | exhausted => exact Nat.le_refl 0
  | failed => exact Nat.succ_le_succ (Nat.zero_le _)
  | decided _ => exact Nat.succ_le_succ (Nat.zero_le _)
  | passed _ _ ih => exact Nat.succ_le_succ ih

/-- An answer that is not the last one is a page that leaves the outcome open. -/
theorem getElem?_passed (h : ScanRun options key start pages isFirst scanned answers outcome)
    {i : Nat} (hi : i + 1 < answers.length) :
    ∃ page, answers[i]? = some (.ok page) ∧ (isFirst = true → i = 0 → page ≠ []) ∧
      options.pageSize.toNat ≤ page.length ∧ ∀ p ∈ page, ¬ key.Describes p := by
  induction h generalizing i with
  | exhausted => exact absurd hi (Nat.not_lt_zero _)
  | failed => exact absurd (Nat.lt_of_succ_lt_succ hi) (Nat.not_lt_zero _)
  | decided _ => exact absurd (Nat.lt_of_succ_lt_succ hi) (Nat.not_lt_zero _)
  | @passed _ _ _ page _ _ undecided rest ih =>
    cases i with
    | zero =>
      obtain ⟨first, full, none⟩ := verdict_eq_none_iff.1 undecided
      exact ⟨page, rfl, fun h _ => first h, full, none⟩
    | succ i =>
      obtain ⟨page, answered, -, full, none⟩ := ih (Nat.lt_of_succ_lt_succ hi)
      exact ⟨page, answered, fun _ h => absurd h (Nat.succ_ne_zero i), full, none⟩

/-- The last answer, if there is one, is a failure of the contract or a page. It decides, unless as many
full pages without a match were read as are allowed. -/
theorem outcome_cases (h : ScanRun options key start pages isFirst scanned answers outcome) :
    (∃ e, answers.getLast? = some (.error e) ∧ outcome = .error e) ∨
    (isFirst = true ∧ answers = [.ok []] ∧ outcome = .error (.emptyWindow start)) ∨
    (∃ page, answers.getLast? = some (.ok page) ∧ page.length < options.pageSize.toNat ∧
      key.findMatches page = [] ∧
      outcome = .error (.notFound key.expectedKind.name (scanned + listedIn answers))) ∨
    (∃ page, answers.getLast? = some (.ok page) ∧ key.findMatches page ≠ [] ∧
      outcome = CorrelationKey.pick options.ambiguity (key.findMatches page)) ∨
    (answers.length = pages ∧
      (∀ answer ∈ answers, ∃ page, answer = .ok page ∧ options.pageSize.toNat ≤ page.length ∧
        key.findMatches page = []) ∧
      outcome = .error (.windowExhausted start options.maxPages)) := by
  induction h with
  | exhausted => exact .inr (.inr (.inr (.inr ⟨rfl, nofun, rfl⟩)))
  | @failed _ _ _ e => exact .inl ⟨e, rfl, rfl⟩
  | @decided _ _ _ page _ decides =>
    refine .inr ?_
    rcases verdict_cases decides with ⟨first, rfl, rfl⟩ | ⟨short, none, rfl⟩ | ⟨some, rfl⟩
    · exact .inl ⟨first, rfl, rfl⟩
    · exact .inr (.inl ⟨page, rfl, short, none, rfl⟩)
    · exact .inr (.inr (.inl ⟨page, rfl, some, rfl⟩))
  | @passed _ _ scanned page answers outcome undecided rest ih =>
    obtain ⟨-, full, none⟩ := verdict_eq_none_iff.1 undecided
    have none := CorrelationKey.findMatches_eq_nil_iff.2 none
    have last : ∀ answer, answers.getLast? = some answer →
        (.ok page :: answers : List (Except Error (List Proposal))).getLast? = some answer := by
      intro answer h
      rw [List.getLast?_cons, h]
      rfl
    rcases ih with ⟨e, he, rfl⟩ | ⟨first, -, -⟩ | ⟨short, hp, hs, hn, rfl⟩ | ⟨hit, hp, hs, rfl⟩ |
      ⟨count, passed, rfl⟩
    · exact .inl ⟨e, last _ he, rfl⟩
    · cases first
    · refine .inr (.inr (.inl ⟨short, last _ hp, hs, hn, ?_⟩))
      rw [listedIn, ← Nat.add_assoc]
    · exact .inr (.inr (.inr (.inl ⟨hit, last _ hp, hs, rfl⟩)))
    · refine .inr (.inr (.inr (.inr ⟨congrArg (· + 1) count, ?_, rfl⟩)))
      intro answer h
      rcases List.mem_cons.1 h with rfl | h
      · exact ⟨page, rfl, full, none⟩
      · exact passed answer h

end ScanRun

/-! ## The requests of one scan -/

/-- What the answers to the requests of a scan have to do with its outcome. -/
structure ScanTrace (options : ScanOptions) (key : CorrelationKey) (start : UInt64)
    (answers : List (Except Error (List Proposal))) (outcome : Except Error UInt64) : Prop where
  /-- No more pages are asked for than are allowed. -/
  length_le : answers.length ≤ options.maxPages
  /-- All answers but the last leave the outcome open: they are full pages without a match, the first one
  not empty. -/
  passed : ∀ i, i + 1 < answers.length → ∃ page, answers[i]? = some (.ok page) ∧
    (i = 0 → page ≠ []) ∧ options.pageSize.toNat ≤ page.length ∧ ∀ p ∈ page, ¬ key.Describes p
  /-- A failure of the contract is the last answer, and the outcome. -/
  failed : ∀ i e, answers[i]? = some (.error e) → i + 1 = answers.length ∧ outcome = .error e
  /-- What is found is on the last page: the first proposal there that the key describes, and the only one
  if several are refused. -/
  found : ∀ id, outcome = .ok id → ∃ page before p after, answers.getLast? = some (.ok page) ∧
    page = before ++ p :: after ∧ p.id = id ∧ key.Describes p ∧
    (∀ q ∈ before, ¬ key.Describes q) ∧
    (options.ambiguity = .reject → ∀ q ∈ after, ¬ key.Describes q)
  /-- An error that is not the contract's has one of four causes. -/
  refused : ∀ e, outcome = .error e →
    answers.getLast? = some (.error e) ∨
    (answers = [.ok []] ∧ e = .emptyWindow start) ∨
    (∃ page, answers.getLast? = some (.ok page) ∧ page.length < options.pageSize.toNat ∧
      key.findMatches page = [] ∧ e = .notFound key.expectedKind.name (listedIn answers)) ∨
    (∃ page, answers.getLast? = some (.ok page) ∧ options.ambiguity = .reject ∧
      2 ≤ (key.findMatches page).length ∧ e = .ambiguousMatch (key.findMatches page)) ∨
    (answers.length = options.maxPages ∧
      (∀ answer ∈ answers, ∃ page, answer = .ok page ∧ options.pageSize.toNat ≤ page.length ∧
        key.findMatches page = []) ∧
      e = .windowExhausted start options.maxPages)

namespace ScanRun

variable {options : ScanOptions} {key : CorrelationKey} {start : UInt64}
  {answers : List (Except Error (List Proposal))} {outcome : Except Error UInt64}

/-- A failure of the contract ends the run, and is its outcome. -/
theorem failed_last {pages scanned : Nat} {isFirst : Bool}
    (h : ScanRun options key start pages isFirst scanned answers outcome) {i : Nat} {e : Error}
    (he : answers[i]? = some (.error e)) : i + 1 = answers.length ∧ outcome = .error e := by
  have inside : i < answers.length := (List.getElem?_eq_some_iff.1 he).1
  have last : i + 1 = answers.length := by
    rcases Nat.lt_or_ge (i + 1) answers.length with before | last
    · obtain ⟨page, ok, -⟩ := h.getElem?_passed before
      rw [he] at ok
      cases ok
    · omega
  have final : answers.getLast? = some (.error e) := by
    rw [List.getLast?_eq_getElem?, ← last]
    exact he
  refine ⟨last, ?_⟩
  rcases h.outcome_cases with ⟨e', he', rfl⟩ | ⟨-, rfl, -⟩ | ⟨page, hp, -⟩ | ⟨page, hp, -⟩ |
    ⟨-, passed, -⟩
  · rw [final] at he'
    cases he'
    rfl
  · cases final
  · rw [final] at hp
    cases hp
  · rw [final] at hp
    cases hp
  · obtain ⟨page, ok, -⟩ := passed _ (List.mem_of_getLast? final)
    cases ok

/-- What is found is the first match of the last page, and its only one if several are refused. -/
theorem found_last {pages scanned : Nat} {isFirst : Bool}
    (h : ScanRun options key start pages isFirst scanned answers outcome) {id : UInt64}
    (hid : outcome = .ok id) :
    ∃ page before p after, answers.getLast? = some (.ok page) ∧ page = before ++ p :: after ∧
      p.id = id ∧ key.Describes p ∧ (∀ q ∈ before, ¬ key.Describes q) ∧
      (options.ambiguity = .reject → ∀ q ∈ after, ¬ key.Describes q) := by
  rcases h.outcome_cases with ⟨e, -, rfl⟩ | ⟨-, -, rfl⟩ | ⟨page, -, -, -, rfl⟩ |
    ⟨page, last, -, rfl⟩ | ⟨-, -, rfl⟩
  · cases hid
  · cases hid
  · cases hid
  · obtain ⟨first, only⟩ := CorrelationKey.pick_eq_ok_iff.1 hid
    obtain ⟨ids, found⟩ := List.head?_eq_some_iff.1 first
    obtain ⟨before, p, after, split, hp, described, none, others⟩ :=
      CorrelationKey.findMatches_cons_iff.1 found
    refine ⟨page, before, p, after, last, split, hp, described, none, fun refuse => ?_⟩
    have single := only refuse
    rw [found, List.length_cons] at single
    refine CorrelationKey.findMatches_eq_nil_iff.1 (others.trans ?_)
    exact List.eq_nil_of_length_eq_zero (by omega)
  · cases hid

/-- A run of a whole scan is what its answers make of it. -/
theorem trace (h : ScanRun options key start options.maxPages true 0 answers outcome) :
    ScanTrace options key start answers outcome where
  length_le := h.length_le
  passed i hi := by
    obtain ⟨page, answered, first, full, none⟩ := h.getElem?_passed hi
    exact ⟨page, answered, first rfl, full, none⟩
  failed _ _ he := h.failed_last he
  found _ hid := h.found_last hid
  refused e he := by
    rcases h.outcome_cases with ⟨e', last, rfl⟩ | ⟨-, only, rfl⟩ | ⟨page, last, short, none, rfl⟩ |
      ⟨page, last, some, rfl⟩ | ⟨count, passed, rfl⟩
    · cases he
      exact .inl last
    · cases he
      exact .inr (.inl ⟨only, rfl⟩)
    · cases he
      exact .inr (.inr (.inl ⟨page, last, short, none, by rw [Nat.zero_add]⟩))
    · obtain ⟨refuse, several, rfl⟩ := (CorrelationKey.pick_eq_error_iff some).1 he
      exact .inr (.inr (.inr (.inl ⟨page, last, refuse, several, rfl⟩)))
    · cases he
      exact .inr (.inr (.inr (.inr ⟨count, passed, rfl⟩)))

end ScanRun

/-- **The requests of a scan decide it, one page after the other.** Against any contract, the calls of one
scan are the requests for consecutive pages from the scan start on, and nothing else; all but the last
are answered with full pages that hold no match; the outcome is what the last answer decides. -/
theorem GovernanceContract.scan_trace {σ : Type} (contract : GovernanceContract (StateM σ))
    (options : ScanOptions) (key : CorrelationKey) (s : σ) :
    ∃ answers outcome t,
      contract.scan options key s = (outcome, t) ∧
      (∀ log, contract.logged.scan options key (s, log) =
        (outcome, (t, log ++
          pageCalls (scanStart key.baseline options.window) options.pageSize answers))) ∧
      ScanTrace options key (scanStart key.baseline options.window) answers outcome := by
  obtain ⟨answers, outcome, t, plain, withLog, run⟩ :=
    contract.scanPages_run options key (scanStart key.baseline options.window) options.maxPages true
      (scanStart key.baseline options.window) 0 s
  exact ⟨answers, outcome, t, plain, withLog, run.trace⟩

end Governance
