import Governance.Proofs.Contract.Listing
import Governance.Proofs.Correlation.Trace
import Mathlib.Control.Monad.Basic

/-!
# One page and many

The first page can be read on its own (`GovernanceContract.correlateOnce`), or by a scan that may go on to
further pages. What the two make of the page is decided in two places, and in a different order. They agree on
every page, except that what is "not found" for the one is left open by the other if the page is full
(`verdict_first`). What a scan finds on later pages is never an empty window, and "not found" counts the
proposals before them (`scanPages_later`). Main statement: a scan that gets the same first page comes to the
same and asks for no other page, unless the page is full and without a match; then the later pages decide
(`scan_agrees_with_once`).
-/

namespace Governance

/-- The error tells that a search did not find the proposal, or not one alone. -/
def Error.isCorrelation : Error → Bool
  | emptyWindow _ | notFound _ _ | ambiguousMatch _ | windowExhausted _ _ => true
  | _ => false

/-! ## What is made of the first page -/

namespace CorrelationKey

variable {key : CorrelationKey} {page : List Proposal} {start : UInt64} {ambiguity : Ambiguity}

/-- A page on its own is "not found" if there are proposals on it, but none that matches. -/
theorem matchPage_eq_notFound_iff {kind : String} {scanned : Nat} :
    key.matchPage page start ambiguity = .error (.notFound kind scanned) ↔
      page ≠ [] ∧ key.findMatches page = [] ∧ kind = key.expectedKind.name ∧ scanned = page.length := by
  unfold matchPage
  split
  · next empty =>
    rw [List.isEmpty_iff] at empty
    simp [empty]
  · next listed =>
    rw [List.isEmpty_iff] at listed
    cases found : key.findMatches page with
    | nil =>
      dsimp only
      constructor
      · intro h
        cases h
        exact ⟨listed, rfl, rfl, rfl⟩
      · rintro ⟨-, -, rfl, rfl⟩
        rfl
    | cons id ids =>
      dsimp only
      constructor
      · intro h
        have several := (pick_eq_error_iff (List.cons_ne_nil id ids)).1 h
        cases several.2.2
      · rintro ⟨-, none, -⟩
        cases none

end CorrelationKey

namespace GovernanceContract

variable {options : ScanOptions} {key : CorrelationKey} {start : UInt64} {page : List Proposal}

/-- A scan makes of its first page what the page on its own is taken for, or leaves it open if it is full and
has no match. -/
theorem verdict_first (options : ScanOptions) (key : CorrelationKey) (start : UInt64)
    (page : List Proposal) :
    verdict options key start true 0 page =
      if page ≠ [] ∧ key.findMatches page = [] ∧ options.pageSize.toNat ≤ page.length then none
      else some (key.matchPage page start options.ambiguity) := by
  unfold verdict CorrelationKey.matchPage
  rw [Bool.and_true]
  split
  · next empty =>
    rw [List.isEmpty_iff] at empty
    rw [if_neg fun h => h.1 empty]
  · next listed =>
    rw [List.isEmpty_iff] at listed
    cases found : key.findMatches page with
    | cons id ids => exact (if_neg fun h => List.cons_ne_nil id ids h.2.1).symm
    | nil =>
      dsimp only
      rw [Nat.zero_add]
      by_cases short : page.length < options.pageSize.toNat
      · rw [if_pos short, if_neg fun h => Nat.not_le_of_lt short h.2.2]
      · rw [if_neg short, if_pos ⟨listed, rfl, Nat.le_of_not_lt short⟩]

/-! ## Later pages -/

section

variable {σ : Type} {contract : GovernanceContract (StateM σ)}

/-- The contract fails for reasons of its own: its errors are not those of a search. -/
def FailsOtherwise (contract : GovernanceContract (StateM σ)) : Prop :=
  ∀ fromIndex limit s e, (contract.listProposals fromIndex limit s).1 = .error e → e.isCorrelation = false

/-- Behind the first page a scan does not end with an empty window, and if it finds nothing, it counts all
that was scanned. -/
theorem scanPages_later (otherwise : contract.FailsOtherwise) (pages : Nat) (index : UInt64)
    (scanned : Nat) (s : σ) {e : Error}
    (fails : (contract.scanPages options key start pages false index scanned s).1 = .error e) :
    (∀ i, e ≠ .emptyWindow i) ∧ ∀ kind n, e = .notFound kind n → scanned ≤ n := by
  induction pages generalizing index scanned s with
  | zero =>
    have exhausted : e = .windowExhausted start options.maxPages := by
      cases fails
      rfl
    subst exhausted
    exact ⟨nofun, nofun⟩
  | succ pages ih =>
    rcases asked : contract.listProposals index options.pageSize s with ⟨answer, t⟩
    cases answer with
    | error fault =>
      have own : fault.isCorrelation = false := otherwise index options.pageSize s fault (by rw [asked])
      rw [scanPages_error asked] at fails
      cases fails
      refine ⟨?_, ?_⟩
      · rintro i rfl
        cases own
      · rintro kind n rfl
        cases own
    | ok page =>
      rw [scanPages_page asked] at fails
      cases decides : verdict options key start false scanned page with
      | none =>
        rw [decides] at fails
        obtain ⟨notEmpty, counts⟩ := ih _ _ _ fails
        exact ⟨notEmpty, fun kind n same => Nat.le_trans (Nat.le_add_right _ _) (counts kind n same)⟩
      | some outcome =>
        rw [decides] at fails
        rcases verdict_cases decides with ⟨first, -, -⟩ | ⟨-, -, rfl⟩ | ⟨some, rfl⟩
        · cases first
        · cases fails
          refine ⟨nofun, ?_⟩
          intro kind n same
          cases same
          exact Nat.le_add_right _ _
        · obtain ⟨-, -, rfl⟩ := (CorrelationKey.pick_eq_error_iff some).1 fails
          exact ⟨nofun, nofun⟩

/-! ## The page on its own and as the first of a scan -/

variable {s t : σ} {e : Error}

/-- A page that cannot be had is all there is to it. -/
theorem correlateOnce_error
    (asked : contract.listProposals (scanStart key.baseline options.window) options.pageSize s =
      (.error e, t)) :
    contract.correlateOnce options key s = (.error e, t) :=
  run_bind_error asked

/-- A page on its own is looked through. -/
theorem correlateOnce_page
    (asked : contract.listProposals (scanStart key.baseline options.window) options.pageSize s =
      (.ok page, t)) :
    contract.correlateOnce options key s =
      (key.matchPage page (scanStart key.baseline options.window) options.ambiguity, t) := by
  rw [correlateOnce, run_bind_ok asked, run_liftExcept]

/-- A page that cannot be had ends a scan that may read it. -/
theorem scan_error (readable : 0 < options.maxPages)
    (asked : contract.listProposals (scanStart key.baseline options.window) options.pageSize s =
      (.error e, t)) :
    contract.scan options key s = (.error e, t) := by
  obtain ⟨pages, more⟩ : ∃ pages, options.maxPages = pages + 1 := Nat.exists_eq_add_one.2 readable
  unfold scan
  rw [more]
  exact scanPages_error asked

/-- The first page of a scan that may read it decides, or the scan goes on behind it. -/
theorem scan_page (readable : 0 < options.maxPages)
    (asked : contract.listProposals (scanStart key.baseline options.window) options.pageSize s =
      (.ok page, t)) :
    contract.scan options key s =
      match verdict options key (scanStart key.baseline options.window) true 0 page with
      | some outcome => (outcome, t)
      | none =>
        contract.scanPages options key (scanStart key.baseline options.window) (options.maxPages - 1)
          false (nextIndex (scanStart key.baseline options.window) options.pageSize) page.length t := by
  obtain ⟨pages, more⟩ : ∃ pages, options.maxPages = pages + 1 := Nat.exists_eq_add_one.2 readable
  unfold scan
  rw [more]
  refine (scanPages_page asked).trans ?_
  rw [Nat.zero_add]
  rfl

/-- Reading the first page on its own has the outcome and makes the calls, with a log or without. -/
def OnceAsks (contract : GovernanceContract (StateM σ)) (options : ScanOptions) (key : CorrelationKey)
    (s : σ) (outcome : Except Error UInt64) (calls : List ContractCall) : Prop :=
  ∃ t, contract.correlateOnce options key s = (outcome, t) ∧
    ∀ log, contract.logged.correlateOnce options key (s, log) = (outcome, (t, log ++ calls))

/-- A scan has the outcome and makes the calls, with a log or without. -/
def ScanAsks (contract : GovernanceContract (StateM σ)) (options : ScanOptions) (key : CorrelationKey)
    (s : σ) (outcome : Except Error UInt64) (calls : List ContractCall) : Prop :=
  ∃ t, contract.scan options key s = (outcome, t) ∧
    ∀ log, contract.logged.scan options key (s, log) = (outcome, (t, log ++ calls))

end

end GovernanceContract

/-- How the outcome of a scan goes with that of its first page on its own. Both requests for that page got the
same answer, and `further` are the calls of the scan after it. -/
structure AgreesWithOnce (options : ScanOptions) (key : CorrelationKey) (start : UInt64)
    (answer : Except Error (List Proposal)) (once scan : Except Error UInt64)
    (further : List ContractCall) : Prop where
  /-- Anything but "not found" is the outcome of the scan as well, and no other page is asked for. -/
  decided : (∀ kind n, once ≠ .error (.notFound kind n)) → scan = once ∧ further = []
  /-- "Not found" is said of a page, and counts what is on it. -/
  page : ∀ kind n, once = .error (.notFound kind n) → ∃ page, answer = .ok page ∧ page.length = n
  /-- If the page is short, it is the outcome of the scan as well. -/
  short : ∀ kind n, once = .error (.notFound kind n) → n < options.pageSize.toNat →
    scan = once ∧ further = []
  /-- If it is full, the outcome is what the answers to the further requests lead to. -/
  full : ∀ kind n, once = .error (.notFound kind n) → options.pageSize.toNat ≤ n →
    ∃ later, further = pageCalls (nextIndex start options.pageSize) options.pageSize later ∧
      ScanRun options key start (options.maxPages - 1) false n later scan
  /-- Then it is no empty window, and if it is "not found" again, it counts the first page as well. -/
  later : ∀ kind n, once = .error (.notFound kind n) → options.pageSize.toNat ≤ n →
    (∀ i, scan ≠ .error (.emptyWindow i)) ∧
      ∀ kind' n', scan = .error (.notFound kind' n') → n ≤ n'

namespace AgreesWithOnce

open GovernanceContract (verdict verdict_first)

variable {options : ScanOptions} {key : CorrelationKey} {start : UInt64} {page : List Proposal}

/-- A failure of the contract is the outcome of both. -/
theorem of_error {e : Error} (own : e.isCorrelation = false) :
    AgreesWithOnce options key start (.error e) (.error e) (.error e) [] := by
  have other : ∀ kind n, (.error e : Except Error UInt64) ≠ .error (.notFound kind n) := by
    rintro kind n same
    cases same
    cases own
  exact {
    decided := fun _ => ⟨rfl, rfl⟩
    page := fun kind n h => absurd h (other kind n)
    short := fun kind n h => absurd h (other kind n)
    full := fun kind n h => absurd h (other kind n)
    later := fun kind n h => absurd h (other kind n) }

/-- What a page on its own is taken for is the outcome of both if the page decides the scan. -/
theorem of_decided
    (decides : ¬ (page ≠ [] ∧ key.findMatches page = [] ∧ options.pageSize.toNat ≤ page.length)) :
    AgreesWithOnce options key start (.ok page) (key.matchPage page start options.ambiguity)
      (key.matchPage page start options.ambiguity) [] := by
  have notFull : ∀ kind n, key.matchPage page start options.ambiguity = .error (.notFound kind n) →
      ¬ options.pageSize.toNat ≤ n := by
    intro kind n notFound full
    obtain ⟨listed, none, -, rfl⟩ := CorrelationKey.matchPage_eq_notFound_iff.1 notFound
    exact decides ⟨listed, none, full⟩
  exact {
    decided := fun _ => ⟨rfl, rfl⟩
    page := fun kind n notFound =>
      ⟨page, rfl, (CorrelationKey.matchPage_eq_notFound_iff.1 notFound).2.2.2.symm⟩
    short := fun _ _ _ _ => ⟨rfl, rfl⟩
    full := fun kind n notFound full => absurd full (notFull kind n notFound)
    later := fun kind n notFound full => absurd full (notFull kind n notFound) }

/-- A full page without a match is "not found" on its own, and leaves the scan to the pages behind it. -/
theorem of_left {answers : List (Except Error (List Proposal))} {scan : Except Error UInt64}
    (listed : page ≠ []) (none : key.findMatches page = [])
    (full : options.pageSize.toNat ≤ page.length)
    (run : ScanRun options key start (options.maxPages - 1) false page.length answers scan)
    (notEmpty : ∀ i, scan ≠ .error (.emptyWindow i))
    (counts : ∀ kind n, scan = .error (.notFound kind n) → page.length ≤ n) :
    AgreesWithOnce options key start (.ok page) (key.matchPage page start options.ambiguity) scan
      (pageCalls (nextIndex start options.pageSize) options.pageSize answers) := by
  have once : key.matchPage page start options.ambiguity =
      .error (.notFound key.expectedKind.name page.length) :=
    CorrelationKey.matchPage_eq_notFound_iff.2 ⟨listed, none, rfl, rfl⟩
  rw [once]
  have counted : ∀ kind n, (.error (.notFound key.expectedKind.name page.length) :
      Except Error UInt64) = .error (.notFound kind n) → page.length = n := by
    intro kind n same
    cases same
    rfl
  exact {
    decided := fun other => absurd rfl (other _ _)
    page := fun kind n same => ⟨page, rfl, counted kind n same⟩
    short := fun kind n same short => by
      rw [← counted kind n same] at short
      exact absurd full (Nat.not_le_of_lt short)
    full := fun kind n same _ => by
      rw [← counted kind n same]
      exact ⟨answers, rfl, run⟩
    later := fun kind n same _ => by
      rw [← counted kind n same]
      exact ⟨notEmpty, counts⟩ }

end AgreesWithOnce

namespace GovernanceContract

variable {σ : Type}

/-- **The first page on its own, and a scan.** Against a contract that fails for reasons of its own, and
answers the request for the first page alike both times, the page is all that is asked for on its own, and the
scan asks for it first. If that comes to anything but "not found", or the page is short, the two have one
outcome and the scan asks for nothing else. If it is "not found" and the page is full, the answers to the
further requests decide. -/
theorem scan_agrees_with_once (contract : GovernanceContract (StateM σ))
    (otherwise : contract.FailsOtherwise) (options : ScanOptions) (readable : 0 < options.maxPages)
    (key : CorrelationKey) {s s' : σ}
    (alike : (contract.listProposals (scanStart key.baseline options.window) options.pageSize s).1 =
      (contract.listProposals (scanStart key.baseline options.window) options.pageSize s').1) :
    let first := ContractCall.list (scanStart key.baseline options.window) options.pageSize
    ∃ answer once scan further,
      contract.OnceAsks options key s once [first answer] ∧
      contract.ScanAsks options key s' scan (first answer :: further) ∧
      AgreesWithOnce options key (scanStart key.baseline options.window) answer once scan further := by
  intro first
  rcases asked : contract.listProposals (scanStart key.baseline options.window) options.pageSize s
    with ⟨answer, t⟩
  rcases asked' : contract.listProposals (scanStart key.baseline options.window) options.pageSize s'
    with ⟨answer', t'⟩
  obtain rfl : answer = answer' := by
    rw [asked, asked'] at alike
    exact alike
  have noted := logged_listProposals asked
  have noted' := logged_listProposals asked'
  cases answer with
  | error e =>
    exact ⟨.error e, .error e, .error e, [],
      ⟨t, correlateOnce_error asked, fun log => correlateOnce_error (noted log)⟩,
      ⟨t', scan_error readable asked', fun log => scan_error readable (noted' log)⟩,
      .of_error (otherwise _ _ s e (by rw [asked]))⟩
  | ok page =>
    have once : contract.OnceAsks options key s
        (key.matchPage page (scanStart key.baseline options.window) options.ambiguity)
        [first (.ok page)] :=
      ⟨t, correlateOnce_page asked, fun log => correlateOnce_page (noted log)⟩
    have scanned := scan_page readable asked'
    have scanned' := fun log => scan_page readable (noted' log)
    by_cases left : page ≠ [] ∧ key.findMatches page = [] ∧ options.pageSize.toNat ≤ page.length
    · rw [verdict_first, if_pos left] at scanned
      simp only [verdict_first, if_pos left] at scanned'
      obtain ⟨answers, outcome, u, plain, withLog, run⟩ :=
        contract.scanPages_run options key (scanStart key.baseline options.window)
          (options.maxPages - 1) false
          (nextIndex (scanStart key.baseline options.window) options.pageSize) page.length t'
      have later : ∀ e, outcome = .error e →
          (∀ i, e ≠ .emptyWindow i) ∧ ∀ kind n, e = .notFound kind n → page.length ≤ n :=
        fun e fails => scanPages_later otherwise _ _ _ _ (by rw [plain, fails])
      refine ⟨.ok page, _, outcome, _, once, ⟨u, scanned.trans plain, fun log => ?_⟩,
        .of_left left.1 left.2.1 left.2.2 run (fun i same => (later _ same).1 i rfl)
          fun kind n same => (later _ same).2 kind n rfl⟩
      rw [scanned', withLog, List.append_assoc]
      rfl
    · rw [verdict_first, if_neg left] at scanned
      simp only [verdict_first, if_neg left] at scanned'
      exact ⟨.ok page, _, _, [], once, ⟨t', scanned, scanned'⟩, .of_decided left⟩

/-- Between the two, the proposal was submitted. The first page of one proposal was there before, and does not
match; the scan goes on behind it and finds the proposal with its third request. -/
theorem scan_goes_on_behind_first_page :
    let contract := ledger fun _ => []
    let before := [⟨"", .mintRoot 1⟩, ⟨"", .mintRoot 2⟩].foldl record []
    let after := record before ⟨"", .mintRoot 7⟩
    let key := CorrelationKey.forKind 0 (.mintRoot 7) default .epoch
    let options : ScanOptions := ⟨0, 1, 3, 1000, 60, .takeFirst⟩
    (contract.correlateOnce options key before).1 = .error (.notFound "MintRoot" 1) ∧
      (contract.scan options key after).1 = .ok 2 ∧
      ∃ answer later, ScanRun options key 0 2 false 1 later (.ok 2) ∧
        ∃ t, contract.logged.scan options key (after, []) =
          (.ok 2, (t, .list 0 1 answer :: pageCalls 1 1 later)) := by
  intro contract before after key options
  have onItsOwn : (contract.correlateOnce options key before).1 = .error (.notFound "MintRoot" 1) := by
    decide +kernel
  have found : (contract.scan options key after).1 = .ok 2 := by decide +kernel
  have never : contract.FailsOtherwise := fun _ _ _ _ fails => by cases fails
  have alike : (contract.listProposals (scanStart key.baseline options.window) options.pageSize
      before).1 = (contract.listProposals (scanStart key.baseline options.window) options.pageSize
      after).1 := by decide +kernel
  obtain ⟨answer, once, outcome, further, ⟨t, asked, -⟩, ⟨u, scanned, withLog⟩, agrees⟩ :=
    scan_agrees_with_once contract never options (by decide) key alike
  obtain rfl : once = .error (.notFound "MintRoot" 1) := by
    rw [asked] at onItsOwn
    exact onItsOwn
  obtain rfl : outcome = .ok 2 := by
    rw [scanned] at found
    exact found
  obtain ⟨later, rfl, run⟩ := agrees.full _ _ rfl (by decide)
  have start : scanStart key.baseline options.window = 0 := by decide
  have behind : nextIndex 0 options.pageSize = 1 := by decide
  rw [start] at run withLog
  rw [behind] at withLog
  exact ⟨onItsOwn, found, answer, later, run, u, withLog []⟩

end GovernanceContract

end Governance
