import Governance.Proofs.Correlation.Refusing
import Mathlib.Order.Interval.Finset.Nat

/-!
# Gaps between IDs

A contract may remove proposals, and IDs are not given twice, so the IDs of a list ascend but may have gaps. A
scan takes a page that is not full for the end of the list, and goes on by IDs. A page of `n` IDs is full exactly
if all of them are listed (`length_pageOf_iff`), so what ends the scan is the first page with a gap on it, be it
at the end of the list or not. `scanPages_unlisted_iff` is the induction over the pages. Main statement: nothing
is found exactly if no ID up to the end of the first page with a gap matches (`scan_unlisted_iff`). IDs behind
that page are not looked at; without gaps there are none.
-/

namespace Governance

/-- IDs ascend. Between two of them others may be missing. -/
def Ascending (ps : List Proposal) : Prop :=
  ps.Pairwise fun p q => p.id < q.id

/-- All numbers in a range are IDs of a list. -/
def Filled (ps : List Proposal) (first bound : Nat) : Prop :=
  ∀ n, first ≤ n → n < bound → ∃ p ∈ ps, p.id.toNat = n

variable {key : CorrelationKey} {ps : List Proposal}

namespace Filled

variable {first bound bound' : Nat}

/-- A filled range is filled up to any earlier end. -/
theorem earlier (h : Filled ps first bound') (le : bound ≤ bound') : Filled ps first bound :=
  fun n lower upper => h n lower (Nat.lt_of_lt_of_le upper le)

/-- A range is filled if its two parts are. -/
theorem extend_iff (h : Filled ps first bound) (after : first ≤ bound) :
    Filled ps first bound' ↔ Filled ps bound bound' := by
  constructor
  · intro whole n lower upper
    exact whole n (Nat.le_trans after lower) upper
  · intro second n lower upper
    by_cases before : n < bound
    · exact h n lower before
    · exact second n (Nat.le_of_not_lt before) upper

/-- A range that is not empty is only filled as far as 64 bits go. -/
theorem bound_le (h : Filled ps first bound) (nonempty : first < bound) : bound ≤ UInt64.size := by
  obtain ⟨p, _, last⟩ := h (bound - 1) (by omega) (by omega)
  have id_lt : p.id.toNat < UInt64.size := p.id.toNat_lt
  omega

end Filled

/-! ## Full pages -/

/-- The IDs of a page, as numbers. -/
def pageIds (ps : List Proposal) (fromIndex limit : UInt64) : List Nat :=
  (pageOf ps fromIndex limit).map fun p => p.id.toNat

theorem mem_pageIds {fromIndex limit : UInt64} {n : Nat} :
    n ∈ pageIds ps fromIndex limit ↔
      fromIndex.toNat ≤ n ∧ n < fromIndex.toNat + limit.toNat ∧ ∃ p ∈ ps, p.id.toNat = n := by
  rw [pageIds, List.mem_map]
  constructor
  · rintro ⟨p, onPage, rfl⟩
    obtain ⟨here, inRange⟩ := List.mem_filter.1 onPage
    rw [decide_eq_true_iff, UInt64.le_iff_toNat_le] at inRange
    exact ⟨inRange.1, inRange.2, p, here, rfl⟩
  · rintro ⟨lower, upper, p, here, rfl⟩
    refine ⟨p, List.mem_filter.2 ⟨here, ?_⟩, rfl⟩
    rw [decide_eq_true_iff, UInt64.le_iff_toNat_le]
    exact ⟨lower, upper⟩

/-- No ID stands twice on a page. -/
theorem Ascending.nodup_pageIds (ascending : Ascending ps) (fromIndex limit : UInt64) :
    (pageIds ps fromIndex limit).Nodup := by
  have onPage : (pageOf ps fromIndex limit).Pairwise fun p q => p.id < q.id :=
    List.Pairwise.sublist List.filter_sublist ascending
  rw [pageIds, List.Nodup, List.pairwise_map]
  exact onPage.imp fun less => Nat.ne_of_lt (UInt64.lt_iff_toNat_lt.1 less)

/-- A page is full exactly if the range it was asked for is filled. -/
theorem length_pageOf_iff (ascending : Ascending ps) (fromIndex limit : UInt64) :
    limit.toNat ≤ (pageOf ps fromIndex limit).length ↔
      Filled ps fromIndex.toNat (fromIndex.toNat + limit.toNat) := by
  have card : (pageIds ps fromIndex limit).toFinset.card = (pageOf ps fromIndex limit).length := by
    rw [List.toFinset_card_of_nodup (ascending.nodup_pageIds fromIndex limit), pageIds,
      List.length_map]
  have room : (Finset.Ico fromIndex.toNat (fromIndex.toNat + limit.toNat)).card = limit.toNat := by
    rw [Nat.card_Ico]
    omega
  have inside : (pageIds ps fromIndex limit).toFinset ⊆
      Finset.Ico fromIndex.toNat (fromIndex.toNat + limit.toNat) := by
    intro n hn
    obtain ⟨lower, upper, _⟩ := mem_pageIds.1 (List.mem_toFinset.1 hn)
    exact Finset.mem_Ico.2 ⟨lower, upper⟩
  constructor
  · intro full n lower upper
    -- as many IDs as the range has room for are all of them
    have all := Finset.eq_of_subset_of_card_le inside (by rw [card, room]; exact full)
    have hn : n ∈ (pageIds ps fromIndex limit).toFinset := by
      rw [all]
      exact Finset.mem_Ico.2 ⟨lower, upper⟩
    exact (mem_pageIds.1 (List.mem_toFinset.1 hn)).2.2
  · intro filled
    rw [← card, ← room]
    refine Finset.card_le_card fun n hn => ?_
    obtain ⟨lower, upper⟩ := Finset.mem_Ico.1 hn
    exact List.mem_toFinset.2 (mem_pageIds.2 ⟨lower, upper, filled n lower upper⟩)

/-- What was looked at is filled up to the end of the next page exactly if that page is full. The exception
are pages of one ID: when all 64-bit IDs are listed, the last of them is asked for again and again. -/
theorem length_next_iff (ascending : Ascending ps) {start fromIndex limit : UInt64} {bound : Nat}
    (begins : fromIndex.toNat = min bound (UInt64.size - 1)) (after : start.toNat ≤ bound)
    (nonempty : 0 < limit.toNat) (ends : limit.toNat = 1 → ¬ Filled ps start.toNat UInt64.size)
    (filled : Filled ps start.toNat bound) :
    limit.toNat ≤ (pageOf ps fromIndex limit).length ↔
      Filled ps start.toNat (bound + limit.toNat) := by
  have start_lt : start.toNat < UInt64.size := start.toNat_lt
  rw [length_pageOf_iff ascending]
  by_cases fits : bound < UInt64.size
  · rw [show fromIndex.toNat = bound by omega, filled.extend_iff after]
  · have last : bound = UInt64.size := Nat.le_antisymm (filled.bound_le (by omega)) (by omega)
    constructor
    · intro full
      have one : limit.toNat = 1 := by
        have := full.bound_le (by omega)
        omega
      rw [last] at filled
      exact absurd filled (ends one)
    · intro whole
      have := whole.bound_le (by omega)
      omega

/-! ## Pages that find nothing -/

/-- A search came to the end of the list, as far as it could tell, without a match. -/
def Unlisted (outcome : Except Error UInt64) : Prop :=
  (∃ fromIndex, outcome = .error (.emptyWindow fromIndex)) ∨
    ∃ kind scanned, outcome = .error (.notFound kind scanned)

/-- Of pages of `size` IDs each, the first of which begins at `bound`, the one with number `i` is the first
with a gap, and no ID from `first` up to its end matches. -/
structure EndsAt (key : CorrelationKey) (ps : List Proposal) (first bound size i : Nat) : Prop where
  filled : Filled ps first (bound + i * size)
  gap : ¬ Filled ps first (bound + (i + 1) * size)
  unmatched : key.matchingIds ps first (bound + (i + 1) * size) = ∅

/-- A full page may be put in front. -/
theorem endsAt_succ_iff {first bound size i : Nat} :
    EndsAt key ps first bound size (i + 1) ↔ EndsAt key ps first (bound + size) size i := by
  have shift : ∀ i, bound + (i + 1) * size = bound + size + i * size := by
    intro i
    rw [Nat.succ_mul]
    omega
  constructor
  · rintro ⟨filled, gap, unmatched⟩
    rw [shift] at filled gap unmatched
    exact ⟨filled, gap, unmatched⟩
  · rintro ⟨filled, gap, unmatched⟩
    rw [← shift] at filled gap unmatched
    exact ⟨filled, gap, unmatched⟩

namespace GovernanceContract

variable {options : ScanOptions}

/-- A page that decides is not full and has no match, or it has one. -/
theorem verdict_unlisted {start : UInt64} {isFirst : Bool} {scanned : Nat} {page : List Proposal}
    {outcome : Except Error UInt64} (nonempty : 0 < options.pageSize.toNat)
    (h : verdict options key start isFirst scanned page = some outcome) :
    (Unlisted outcome ∧ key.findMatches page = [] ∧ page.length < options.pageSize.toNat) ∨
      (¬ Unlisted outcome ∧ key.findMatches page ≠ []) := by
  rcases verdict_cases h with ⟨_, rfl, rfl⟩ | ⟨short, empty, rfl⟩ | ⟨some, rfl⟩
  · exact .inl ⟨.inl ⟨start, rfl⟩, rfl, nonempty⟩
  · exact .inl ⟨.inr ⟨_, _, rfl⟩, empty, short⟩
  · refine .inr ⟨?_, some⟩
    rintro (⟨_, failed⟩ | ⟨_, _, failed⟩)
    · cases ((CorrelationKey.pick_eq_error_iff some).1 failed).2.2
    · cases ((CorrelationKey.pick_eq_error_iff some).1 failed).2.2

variable {σ : Type} {contract : GovernanceContract (StateM σ)} {listed : σ → List Proposal}

/-- A contract that answers every request for a range of IDs with the proposals it has in that range, which
being asked does not change. -/
structure Serves (contract : GovernanceContract (StateM σ)) (listed : σ → List Proposal) : Prop where
  listProposals : ∀ s (fromIndex limit : UInt64),
    ∃ t, contract.listProposals fromIndex limit s = (.ok (pageOf (listed s) fromIndex limit), t) ∧
      listed t = listed s

theorem ledger_serves : (ledger fun _ => []).Serves fun ps => ps where
  listProposals ps _ _ := ⟨ps, rfl, rfl⟩

/-- With pages of one ID, a list of all 64-bit IDs from the start on has no end: the induction is on the pages
that may still be read, all of which are full. -/
theorem scanPages_endless (serves : contract.Serves listed) (one : options.pageSize.toNat = 1)
    {start index : UInt64} (pages : Nat) (isFirst : Bool) (scanned : Nat) (s : σ)
    (ascending : Ascending (listed s)) (filled : Filled (listed s) start.toNat UInt64.size)
    (after : start.toNat ≤ index.toNat) :
    ¬ Unlisted (contract.scanPages options key start pages isFirst index scanned s).1 := by
  induction pages generalizing isFirst index scanned s with
  | zero =>
    rintro (⟨_, failed⟩ | ⟨_, _, failed⟩)
    · cases failed
    · cases failed
  | succ pages ih =>
    obtain ⟨t, asked, same⟩ := serves.listProposals s index options.pageSize
    have index_lt : index.toNat < UInt64.size := index.toNat_lt
    have full := (length_pageOf_iff ascending index options.pageSize).2 (by
      intro n lower upper
      exact filled n (by omega) (by omega))
    rw [scanPages_page asked]
    cases decides :
        verdict options key start isFirst scanned (pageOf (listed s) index options.pageSize) with
    | some outcome =>
      rcases verdict_unlisted (by omega) decides with ⟨_, _, short⟩ | ⟨found, _⟩
      · omega
      · exact found
    | none =>
      rw [← same] at ascending filled
      refine ih false _ t ascending filled ?_
      rw [nextIndex_toNat]
      omega

/-- **The first page with a gap decides.** The induction is on the pages that may still be read, of which the
first begins at `bound`, or at the last 64-bit ID if that is smaller. All numbers before it are listed, and none
of them matches. -/
theorem scanPages_unlisted_iff (serves : contract.Serves listed)
    (nonempty : 0 < options.pageSize.toNat) {start index : UInt64} (pages : Nat) (isFirst : Bool)
    (scanned : Nat) (s : σ) {bound : Nat} (ascending : Ascending (listed s))
    (ends : options.pageSize.toNat = 1 → ¬ Filled (listed s) start.toNat UInt64.size)
    (begins : index.toNat = min bound (UInt64.size - 1)) (after : start.toNat ≤ bound)
    (filled : Filled (listed s) start.toNat bound)
    (none : key.matchingIds (listed s) start.toNat bound = ∅) :
    Unlisted (contract.scanPages options key start pages isFirst index scanned s).1 ↔
      ∃ i < pages, EndsAt key (listed s) start.toNat bound options.pageSize.toNat i := by
  induction pages generalizing isFirst index scanned s bound with
  | zero =>
    constructor
    · rintro (⟨_, failed⟩ | ⟨_, _, failed⟩)
      · cases failed
      · cases failed
    · rintro ⟨i, within, _⟩
      omega
  | succ pages ih =>
    obtain ⟨t, asked, same⟩ := serves.listProposals s index options.pageSize
    have full := length_next_iff ascending begins after nonempty ends filled
    rw [scanPages_page asked]
    cases decides :
        verdict options key start isFirst scanned (pageOf (listed s) index options.pageSize) with
    | some outcome =>
      dsimp only
      rcases verdict_unlisted nonempty decides with ⟨unlisted, empty, short⟩ | ⟨found, some⟩
      · -- the page has a gap and no match
        refine iff_of_true unlisted ⟨0, Nat.succ_pos pages, ?_, ?_, ?_⟩
        · rw [Nat.zero_mul]
          exact filled
        · rw [Nat.zero_add, Nat.one_mul, ← full]
          exact Nat.not_le_of_lt short
        · rw [Nat.zero_add, Nat.one_mul]
          exact CorrelationKey.matchingIds_next_empty begins after none empty
      · -- a match on the page is a match up to the end of every later one
        refine iff_of_false found ?_
        rintro ⟨i, _, last⟩
        obtain ⟨id, onPage⟩ := List.exists_mem_of_ne_nil _ some
        have here : id.toNat ∈
            key.matchingIds (listed s) start.toNat (bound + options.pageSize.toNat) := by
          rw [CorrelationKey.matchingIds_next begins after none]
          exact ⟨id, onPage, rfl⟩
        have there := CorrelationKey.matchingIds_mono (Nat.add_le_add_left
          (Nat.le_mul_of_pos_left options.pageSize.toNat (Nat.succ_pos i)) bound) here
        rw [last.unmatched] at there
        exact there
    | none =>
      obtain ⟨_, long, empty⟩ := verdict_eq_none_iff.1 decides
      rw [← CorrelationKey.findMatches_eq_nil_iff] at empty
      have filled' := full.1 long
      have none' := CorrelationKey.matchingIds_next_empty begins after none empty
      have next : (nextIndex index options.pageSize).toNat =
          min (bound + options.pageSize.toNat) (UInt64.size - 1) := by
        rw [nextIndex_toNat]
        omega
      have rest := ih false (scanned + (pageOf (listed s) index options.pageSize).length) t
        (by rw [same]; exact ascending) (by rw [same]; exact ends) next (by omega)
        (by rw [same]; exact filled') (by rw [same]; exact none')
      rw [same] at rest
      refine rest.trans ?_
      constructor
      · rintro ⟨i, within, last⟩
        exact ⟨i + 1, Nat.succ_lt_succ within, endsAt_succ_iff.2 last⟩
      · rintro ⟨i, within, last⟩
        cases i with
        | zero =>
          have gap := last.gap
          rw [Nat.zero_add, Nat.one_mul] at gap
          exact absurd filled' gap
        | succ i => exact ⟨i, Nat.lt_of_succ_lt_succ within, endsAt_succ_iff.1 last⟩

/-- **Nothing found means nothing up to the first gap.** Against a contract whose IDs ascend, with gaps where
proposals were removed, a scan takes the list to be at its end without a match exactly if no ID up to the end of
the first page with a gap matches. (With pages of one ID a list of all 64-bit IDs has no end.) If from the scan
start on no ID before a listed one is missing, then no ID in reach matches. -/
theorem scan_unlisted_iff (serves : contract.Serves listed) (options : ScanOptions)
    (nonempty : 0 < options.pageSize.toNat) (key : CorrelationKey) (s : σ)
    (ascending : Ascending (listed s)) {start : Nat}
    (begins : (scanStart key.baseline options.window).toNat = start) :
    (Unlisted (contract.scan options key s).1 ↔
      (options.pageSize.toNat = 1 → ¬ Filled (listed s) start UInt64.size) ∧
      ∃ i < options.maxPages, EndsAt key (listed s) start start options.pageSize.toNat i) ∧
    ((∀ p ∈ listed s, start ≤ p.id.toNat → Filled (listed s) start p.id.toNat) →
      Unlisted (contract.scan options key s).1 →
      key.matchingIds (listed s) start (start + options.maxPages * options.pageSize.toNat) = ∅) := by
  subst begins
  have start_lt : (scanStart key.baseline options.window).toNat < UInt64.size :=
    (scanStart key.baseline options.window).toNat_lt
  have first : Unlisted (contract.scan options key s).1 ↔
      (options.pageSize.toNat = 1 →
        ¬ Filled (listed s) (scanStart key.baseline options.window).toNat UInt64.size) ∧
      ∃ i < options.maxPages, EndsAt key (listed s) (scanStart key.baseline options.window).toNat
        (scanStart key.baseline options.window).toNat options.pageSize.toNat i := by
    by_cases ends : options.pageSize.toNat = 1 →
        ¬ Filled (listed s) (scanStart key.baseline options.window).toNat UInt64.size
    · rw [and_iff_right ends]
      refine scanPages_unlisted_iff serves nonempty _ _ _ s ascending ends (by omega)
        (Nat.le_refl _) (fun n lower upper => by omega) ?_
      refine Set.eq_empty_of_forall_notMem ?_
      rintro _ ⟨lower, upper, _⟩
      omega
    · refine iff_of_false ?_ fun h => ends h.1
      rw [Classical.not_imp, not_not] at ends
      exact scanPages_endless serves ends.1 _ _ _ s ascending ends.2 (Nat.le_refl _)
  refine ⟨first, ?_⟩
  intro contiguous unlisted
  obtain ⟨_, i, _, last⟩ := first.1 unlisted
  -- a listed ID behind the gap would leave none
  refine Set.eq_empty_of_forall_notMem ?_
  rintro _ ⟨lower, _, p, here, rfl, described⟩
  by_cases seen : p.id.toNat < (scanStart key.baseline options.window).toNat +
      (i + 1) * options.pageSize.toNat
  · have matching : p.id.toNat ∈ key.matchingIds (listed s) _ _ :=
      ⟨lower, seen, p, here, rfl, described⟩
    rw [last.unmatched] at matching
    exact matching
  · exact last.gap ((contiguous p here lower).earlier (Nat.le_of_not_lt seen))

/-- The proposal with ID 2 was removed. Nothing up to 3 matches, and a scan that reads two at a time says so when
it comes to the gap; it has not looked at what may come from 4 on. -/
theorem scan_ends_at_removed :
    let ps := [recorded 0 ⟨"", .mintRoot 1⟩, recorded 1 ⟨"", .mintRoot 2⟩,
      recorded 3 ⟨"", .mintRoot 3⟩]
    let key := CorrelationKey.forKind 0 (.mintRoot 7) default .epoch
    let options : ScanOptions := ⟨0, 2, 3, 1000, 60, .takeFirst⟩
    ((ledger fun _ => []).scan options key ps).1 = .error (.notFound "MintRoot" 3) ∧
      ∃ i < 3, EndsAt key ps 0 0 2 i := by
  intro ps key options
  have ascending : Ascending ps := by
    unfold Ascending
    decide
  have computed : ((ledger fun _ => []).scan options key ps).1 =
      .error (.notFound "MintRoot" 3) := by
    decide +kernel
  have begins : (scanStart key.baseline options.window).toNat = 0 := by decide
  have account := (scan_unlisted_iff ledger_serves options (by decide) key ps ascending begins).1
  exact ⟨computed, (account.1 (.inr ⟨_, _, computed⟩)).2⟩

/-- The proposal with ID 1 was removed, and the one with ID 2 matches. A scan that reads two at a time takes the
first page for the end of the list. -/
theorem scan_overlooks_behind_removed :
    let ps := [recorded 0 ⟨"", .mintRoot 1⟩, recorded 2 ⟨"", .mintRoot 7⟩]
    let key := CorrelationKey.forKind 0 (.mintRoot 7) default .epoch
    let options : ScanOptions := ⟨2, 2, 2, 1000, 60, .takeFirst⟩
    (ledger fun _ => []).Serves (fun ps => ps) ∧ Ascending ps ∧
      ((ledger fun _ => []).scan options key ps).1 = .error (.notFound "MintRoot" 1) ∧
      2 ∈ key.matchingIds ps 0 (0 + options.maxPages * options.pageSize.toNat) := by
  intro ps key options
  have ascending : Ascending ps := by
    unfold Ascending
    decide
  have computed : ((ledger fun _ => []).scan options key ps).1 =
      .error (.notFound "MintRoot" 1) := by
    decide +kernel
  have accepted : key.accepts (recorded 2 ⟨"", .mintRoot 7⟩) = true := by
    decide +kernel
  exact ⟨ledger_serves, ascending, computed, by decide, by decide, _,
    List.mem_cons_of_mem _ List.mem_cons_self, rfl, CorrelationKey.accepts_iff.1 accepted⟩

end GovernanceContract

end Governance
