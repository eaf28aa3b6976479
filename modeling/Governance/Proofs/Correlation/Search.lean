import Governance.Proofs.Contract.Listing
import Governance.Proofs.Correlation.Matching
import Mathlib.Order.Bounds.Basic

/-!
# Scanning is searching the list

Against a contract that answers out of a fixed list, reading page after page is searching one stretch of that
list. The loop is compared with a search that knows no pages (`searchOutcome`): `scanPages_eq_search` is
the induction over the pages, and `find?_eq_some_isLeast` says what the search finds in terms of IDs. Main
statement: what a scan gives is determined by the matching IDs between the scan start and the end of the
last page, and by where the list ends (`scan_searchedTo`).
-/

namespace Governance

/-! ## Matching IDs -/

/-- The IDs in a range under which a list has a proposal that the key describes. -/
def CorrelationKey.matchingIds (key : CorrelationKey) (ps : List Proposal) (first bound : Nat) :
    Set Nat :=
  {i | first ≤ i ∧ i < bound ∧ ∃ p ∈ ps, p.id.toNat = i ∧ key.Describes p}

variable {key : CorrelationKey} {ps : List Proposal}

/-- A proposal of a numbered list stands in a stretch of it by its ID. -/
theorem getElem?_stretch_iff (numbered : Numbered ps) {first reach i : Nat} {p : Proposal} :
    ((ps.drop first).take reach)[i]? = some p ↔
      p ∈ ps ∧ p.id.toNat = first + i ∧ p.id.toNat < first + reach := by
  rw [List.getElem?_take]
  constructor
  · intro hp
    split at hp
    · next lt =>
      rw [List.getElem?_drop] at hp
      have place := numbered _ p hp
      exact ⟨List.mem_of_getElem? hp, place, by omega⟩
    · cases hp
  · rintro ⟨hp, place, upper⟩
    rw [if_pos (by omega), List.getElem?_drop, ← place]
    exact numbered.getElem?_id hp

/-- The proposals of a stretch of a numbered list are those with IDs in it. -/
theorem mem_stretch_iff (numbered : Numbered ps) {first reach : Nat} {p : Proposal} :
    p ∈ (ps.drop first).take reach ↔
      p ∈ ps ∧ first ≤ p.id.toNat ∧ p.id.toNat < first + reach := by
  rw [List.mem_iff_getElem?]
  constructor
  · rintro ⟨i, hi⟩
    obtain ⟨hp, place, upper⟩ := (getElem?_stretch_iff numbered).1 hi
    exact ⟨hp, by omega, upper⟩
  · rintro ⟨hp, lower, upper⟩
    exact ⟨p.id.toNat - first, (getElem?_stretch_iff numbered).2 ⟨hp, by omega, upper⟩⟩

/-- A search of a stretch finds nothing exactly if no ID in it matches. -/
theorem find?_eq_none_iff (numbered : Numbered ps) (first reach : Nat) :
    ((ps.drop first).take reach).find? key.accepts = none ↔
      key.matchingIds ps first (first + reach) = ∅ := by
  rw [List.find?_eq_none, Set.eq_empty_iff_forall_notMem]
  constructor
  · rintro none _ ⟨lower, upper, p, hp, rfl, described⟩
    exact none p ((mem_stretch_iff numbered).2 ⟨hp, lower, upper⟩)
      (CorrelationKey.accepts_iff.2 described)
  · intro none p hp accepted
    obtain ⟨hp, lower, upper⟩ := (mem_stretch_iff numbered).1 hp
    exact none _ ⟨lower, upper, p, hp, rfl, CorrelationKey.accepts_iff.1 accepted⟩

/-- What a search of a stretch finds has the smallest matching ID in it. -/
theorem find?_eq_some_isLeast (numbered : Numbered ps) {first reach : Nat} {p : Proposal}
    (found : ((ps.drop first).take reach).find? key.accepts = some p) :
    IsLeast (key.matchingIds ps first (first + reach)) p.id.toNat := by
  obtain ⟨accepted, i, hi, here, none⟩ := List.find?_eq_some_iff_getElem.1 found
  obtain ⟨hp, place, upper⟩ :=
    (getElem?_stretch_iff numbered).1 (List.getElem?_eq_some_iff.2 ⟨hi, here⟩)
  refine ⟨⟨by omega, upper, p, hp, rfl, CorrelationKey.accepts_iff.1 accepted⟩, ?_⟩
  rintro _ ⟨lower', upper', q, hq, rfl, described⟩
  -- a match with a smaller ID would stand before the one that was found
  refine Nat.le_of_not_lt fun smaller => ?_
  have standing := (getElem?_stretch_iff numbered (i := q.id.toNat - first)).2
    ⟨hq, by omega, upper'⟩
  obtain ⟨_, eq⟩ := List.getElem?_eq_some_iff.1 standing
  have := none (q.id.toNat - first) (by omega)
  rw [eq, CorrelationKey.accepts_iff.2 described] at this
  cases this

/-! ## Searching without pages -/

/-- What looking through a list comes to that is listed from some index on, if at most `reach` proposals
may be looked at and `scanned` were looked at before. -/
def searchOutcome (options : ScanOptions) (key : CorrelationKey) (start : UInt64) (isFirst : Bool)
    (scanned reach : Nat) (rest : List Proposal) : Except Error UInt64 :=
  if isFirst = true ∧ rest = [] then .error (.emptyWindow start)
  else
    match (rest.take reach).find? key.accepts with
    | some p => .ok p.id
    | none =>
      if rest.length < reach then
        .error (.notFound key.expectedKind.name (scanned + rest.length))
      else .error (.windowExhausted start options.maxPages)

/-- A search goes through the first proposals, and on to the others if nothing is decided. -/
theorem searchOutcome_add (options : ScanOptions) (key : CorrelationKey) (start : UInt64)
    (isFirst : Bool) (scanned : Nat) {size : Nat} (nonempty : 0 < size) (more : Nat)
    (rest : List Proposal) :
    searchOutcome options key start isFirst scanned (size + more) rest =
      if (rest.take size).isEmpty && isFirst then .error (.emptyWindow start)
      else
        match (rest.take size).find? key.accepts with
        | some p => .ok p.id
        | none =>
          if (rest.take size).length < size then
            .error (.notFound key.expectedKind.name (scanned + (rest.take size).length))
          else
            searchOutcome options key start false (scanned + (rest.take size).length) more
              (rest.drop size) := by
  have empty : ((rest.take size).isEmpty && isFirst) = true ↔ isFirst = true ∧ rest = [] := by
    rw [Bool.and_eq_true, List.isEmpty_iff, List.take_eq_nil_iff]
    constructor
    · rintro ⟨none, first⟩
      exact ⟨first, none.resolve_left (by omega)⟩
    · rintro ⟨first, none⟩
      exact ⟨.inr none, first⟩
  rw [searchOutcome]
  by_cases nothing : isFirst = true ∧ rest = []
  · rw [if_pos nothing, if_pos (empty.2 nothing)]
  · rw [if_neg nothing, if_neg (fun h => nothing (empty.1 h)), List.take_add, List.find?_append]
    cases found : (rest.take size).find? key.accepts with
    | some p => rfl
    | none =>
      rw [Option.none_or]
      dsimp only
      by_cases short : rest.length < size
      · -- the list ends on the first page, so nothing is left for the others
        have all : rest.take size = rest := List.take_of_length_le (by omega)
        rw [if_pos (show rest.length < size + more by omega), all, if_pos short,
          List.drop_of_length_le (Nat.le_of_lt short), List.take_nil, List.find?_nil]
      · -- the first page is full, and the search goes on behind it
        have full : (rest.take size).length = size := by
          rw [List.length_take, Nat.min_eq_left (Nat.le_of_not_lt short)]
        have later : ¬ (false = true ∧ rest.drop size = []) := fun h => Bool.noConfusion h.1
        rw [full, if_neg (Nat.lt_irrefl size), searchOutcome, if_neg later]
        cases ((rest.drop size).take more).find? key.accepts with
        | some p => rfl
        | none =>
          dsimp only
          rw [List.length_drop]
          by_cases ends : rest.length < size + more
          · rw [if_pos ends, if_pos (show rest.length - size < more by omega),
              show scanned + size + (rest.length - size) = scanned + rest.length by omega]
          · rw [if_neg ends, if_neg (show ¬ rest.length - size < more by omega)]

/-- Every search comes to one of four things. -/
theorem searchOutcome_cases (numbered : Numbered ps) (options : ScanOptions) (key : CorrelationKey)
    (start : UInt64) (reach : Nat) :
    (ps.length ≤ start.toNat ∧
      searchOutcome options key start true 0 reach (ps.drop start.toNat) =
        .error (.emptyWindow start)) ∨
    (∃ id, IsLeast (key.matchingIds ps start.toNat (start.toNat + reach)) id.toNat ∧
      searchOutcome options key start true 0 reach (ps.drop start.toNat) = .ok id) ∨
    (start.toNat < ps.length ∧ key.matchingIds ps start.toNat (start.toNat + reach) = ∅ ∧
      searchOutcome options key start true 0 reach (ps.drop start.toNat) =
        if ps.length < start.toNat + reach then
          .error (.notFound key.expectedKind.name (ps.length - start.toNat))
        else .error (.windowExhausted start options.maxPages)) := by
  rw [searchOutcome]
  by_cases ended : ps.length ≤ start.toNat
  · left
    exact ⟨ended, if_pos ⟨rfl, List.drop_of_length_le ended⟩⟩
  · right
    rw [if_neg fun h => ended (List.drop_eq_nil_iff.1 h.2)]
    cases found : ((ps.drop start.toNat).take reach).find? key.accepts with
    | some p =>
      left
      exact ⟨p.id, find?_eq_some_isLeast numbered found, rfl⟩
    | none =>
      right
      refine ⟨by omega, (find?_eq_none_iff numbered _ _).1 found, ?_⟩
      dsimp only
      rw [List.length_drop, Nat.zero_add]
      by_cases short : ps.length < start.toNat + reach
      · rw [if_pos short, if_pos (by omega)]
      · rw [if_neg short, if_neg (by omega)]

namespace GovernanceContract

variable {σ : Type} {contract : GovernanceContract (StateM σ)} {listed : σ → List Proposal}
  {options : ScanOptions}

/-- **Reading page after page is searching the list.** The induction is on the pages that may still be
read; the rest of the list is what stands from the index on. -/
theorem scanPages_eq_search (lists : contract.Lists listed) (takeFirst : options.ambiguity = .takeFirst)
    (nonempty : 0 < options.pageSize.toNat) (start : UInt64) (pages : Nat) (isFirst : Bool)
    (index : UInt64) (scanned : Nat) (s : σ) (numbered : Numbered (listed s))
    (readable : isFirst = true → 0 < pages)
    (fits : index.toNat + pages * options.pageSize.toNat < UInt64.size) :
    (contract.scanPages options key start pages isFirst index scanned s).1 =
      searchOutcome options key start isFirst scanned (pages * options.pageSize.toNat)
        ((listed s).drop index.toNat) := by
  induction pages generalizing isFirst index scanned s with
  | zero =>
    have later : ¬ (isFirst = true ∧ (listed s).drop index.toNat = []) :=
      fun h => absurd (readable h.1) (Nat.lt_irrefl 0)
    rw [searchOutcome, if_neg later, Nat.zero_mul, List.take_zero, List.find?_nil]
    dsimp only
    rw [if_neg (Nat.not_lt_zero _)]
    rfl
  | succ pages ih =>
    have reach : (pages + 1) * options.pageSize.toNat =
        options.pageSize.toNat + pages * options.pageSize.toNat := by
      rw [Nat.succ_mul, Nat.add_comm]
    rw [reach] at fits ⊢
    obtain ⟨t, asked, same⟩ := lists.listProposals s index options.pageSize (by omega)
    rw [pageOf_eq_take_drop numbered] at asked
    have next : (nextIndex index options.pageSize).toNat = index.toNat + options.pageSize.toNat := by
      rw [nextIndex_toNat, Nat.min_eq_left (by omega)]
    rw [scanPages_page asked, verdict_takeFirst takeFirst,
      searchOutcome_add options key start isFirst scanned nonempty]
    by_cases empty : (((listed s).drop index.toNat).take options.pageSize.toNat).isEmpty && isFirst
    · rw [if_pos empty, if_pos empty]
    · rw [if_neg empty, if_neg empty]
      cases (((listed s).drop index.toNat).take options.pageSize.toNat).find? key.accepts with
      | some p => rfl
      | none =>
        dsimp only
        by_cases short : (((listed s).drop index.toNat).take options.pageSize.toNat).length <
            options.pageSize.toNat
        · rw [if_pos short, if_pos short]
        · -- a full page without a match: the search goes on with what is listed behind it
          rw [if_neg short, if_neg short, List.drop_drop, ← next, ← same]
          rw [← same] at numbered
          exact ih false _ _ t numbered (fun h => Bool.noConfusion h) (by omega)

end GovernanceContract

/-! ## What a scan comes to -/

/-- What looking for a key comes to, among the proposals of a list with IDs from `start` on that are below
`stop`: a complete account, since each line says exactly when its outcome occurs. -/
structure SearchedTo (key : CorrelationKey) (ps : List Proposal) (start : UInt64) (stop pages : Nat)
    (outcome : Except Error UInt64) : Prop where
  /-- The list ends before the start. -/
  emptyWindow : outcome = .error (.emptyWindow start) ↔ ps.length ≤ start.toNat
  /-- The smallest ID that matches is taken. -/
  found : ∀ id, outcome = .ok id ↔ IsLeast (key.matchingIds ps start.toNat stop) id.toNat
  /-- The list ends before the stop, and none of what was seen matches. -/
  notFound : outcome = .error (.notFound key.expectedKind.name (ps.length - start.toNat)) ↔
    start.toNat < ps.length ∧ ps.length < stop ∧ key.matchingIds ps start.toNat stop = ∅
  /-- The list goes on at the stop, and nothing before it matches. -/
  windowExhausted : outcome = .error (.windowExhausted start pages) ↔
    start.toNat < ps.length ∧ stop ≤ ps.length ∧ key.matchingIds ps start.toNat stop = ∅

/-- A search comes to what `SearchedTo` says. -/
theorem searchOutcome_searchedTo (numbered : Numbered ps) (options : ScanOptions) (key : CorrelationKey)
    (start : UInt64) (reach : Nat) :
    SearchedTo key ps start (start.toNat + reach) options.maxPages
      (searchOutcome options key start true 0 reach (ps.drop start.toNat)) := by
  rcases searchOutcome_cases numbered options key start reach with
    ⟨ended, eq⟩ | ⟨id, least, eq⟩ | ⟨going, none, eq⟩
  · have nothing : ∀ i, i ∉ key.matchingIds ps start.toNat (start.toNat + reach) := by
      rintro _ ⟨lower, _, p, hp, rfl, _⟩
      have := numbered.id_lt_length hp
      omega
    rw [eq]
    exact {
      emptyWindow := ⟨fun _ => ended, fun _ => rfl⟩
      found := fun id => ⟨fun h => (by cases h), fun h => absurd h.1 (nothing _)⟩
      notFound := ⟨fun h => (by cases h), fun h => by omega⟩
      windowExhausted := ⟨fun h => (by cases h), fun h => by omega⟩ }
  · obtain ⟨lower, _, p, hp, place, _⟩ := least.1
    have inside := numbered.id_lt_length hp
    have some_match := least.nonempty.ne_empty
    rw [eq]
    exact {
      emptyWindow := ⟨fun h => (by cases h), fun h => by omega⟩
      found := fun id' => ⟨fun h => (by cases h; exact least), fun h => by
        rw [UInt64.toNat_inj.1 (least.unique h)]⟩
      notFound := ⟨fun h => (by cases h), fun h => absurd h.2.2 some_match⟩
      windowExhausted := ⟨fun h => (by cases h), fun h => absurd h.2.2 some_match⟩ }
  · have noLeast : ∀ i, ¬ IsLeast (key.matchingIds ps start.toNat (start.toNat + reach)) i :=
      fun i h => h.nonempty.ne_empty none
    rw [eq]
    split
    · next ends => exact {
        emptyWindow := ⟨fun h => (by cases h), fun h => by omega⟩
        found := fun id => ⟨fun h => (by cases h), fun h => absurd h (noLeast _)⟩
        notFound := ⟨fun _ => ⟨going, ends, none⟩, fun _ => rfl⟩
        windowExhausted := ⟨fun h => (by cases h), fun h => by omega⟩ }
    · next goesOn => exact {
        emptyWindow := ⟨fun h => (by cases h), fun h => by omega⟩
        found := fun id => ⟨fun h => (by cases h), fun h => absurd h (noLeast _)⟩
        notFound := ⟨fun h => (by cases h), fun h => absurd h.2.1 goesOn⟩
        windowExhausted := ⟨fun _ => ⟨going, Nat.le_of_not_lt goesOn, none⟩, fun _ => rfl⟩ }

namespace GovernanceContract

variable {σ : Type} {contract : GovernanceContract (StateM σ)} {listed : σ → List Proposal}

/-- **A scan is a search of the whole list.** If the pages fit into 64 bits, what the scan comes to is told
by the list and by where the last page ends; which proposal it finds depends on the size and the number of
the pages only through that. -/
theorem scan_searchedTo (lists : contract.Lists listed) (options : ScanOptions)
    (takeFirst : options.ambiguity = .takeFirst) (nonempty : 0 < options.pageSize.toNat)
    (readable : 0 < options.maxPages) (key : CorrelationKey) (s : σ) (numbered : Numbered (listed s))
    (fits : (scanStart key.baseline options.window).toNat +
      options.maxPages * options.pageSize.toNat < UInt64.size) :
    SearchedTo key (listed s) (scanStart key.baseline options.window)
      ((scanStart key.baseline options.window).toNat + options.maxPages * options.pageSize.toNat)
      options.maxPages (contract.scan options key s).1 ∧
    ∀ options' : ScanOptions, options'.ambiguity = .takeFirst → options'.window = options.window →
      options'.maxPages * options'.pageSize.toNat = options.maxPages * options.pageSize.toNat →
      ∀ id, (contract.scan options' key s).1 = .ok id ↔ (contract.scan options key s).1 = .ok id := by
  have searched : ∀ o : ScanOptions, o.ambiguity = .takeFirst → o.window = options.window →
      o.maxPages * o.pageSize.toNat = options.maxPages * options.pageSize.toNat →
      SearchedTo key (listed s) (scanStart key.baseline options.window)
        ((scanStart key.baseline options.window).toNat + options.maxPages * options.pageSize.toNat)
        o.maxPages (contract.scan o key s).1 := by
    intro o first sameWindow sameReach
    have some_reach : 0 < o.maxPages * o.pageSize.toNat := by
      rw [sameReach]
      exact Nat.mul_pos readable nonempty
    have pages : (contract.scan o key s).1 =
        searchOutcome o key (scanStart key.baseline options.window) true 0
          (options.maxPages * options.pageSize.toNat)
          ((listed s).drop (scanStart key.baseline options.window).toNat) := by
      rw [scan, sameWindow, ← sameReach]
      exact scanPages_eq_search lists first (Nat.pos_of_mul_pos_left some_reach) _ _ _ _ _ _ numbered
        (fun _ => Nat.pos_of_mul_pos_right some_reach) (by rw [sameReach]; exact fits)
    rw [pages]
    exact searchOutcome_searchedTo numbered o key _ _
  refine ⟨searched options takeFirst rfl rfl, ?_⟩
  intro options' first sameWindow sameReach id
  rw [(searched options' first sameWindow sameReach).found, (searched options takeFirst rfl rfl).found]

/-- Two of these three proposals match. The scan reads a proposal at a time and finds the one with the
smaller ID on its second page. -/
theorem scan_finds_smaller_of_two :
    let ps := [⟨"", .mintRoot 1⟩, ⟨"", .mintRoot 7⟩, ⟨"", .mintRoot 7⟩].foldl record []
    let key := CorrelationKey.forKind 0 (.mintRoot 7) default .epoch
    ((ledger fun _ => []).scan ⟨0, 1, 3, 1000, 60, .takeFirst⟩ key ps).1 = .ok 1 ∧
      IsLeast (key.matchingIds ps 0 3) 1 := by
  intro ps key
  have numbered : Numbered ps := (foldl_record numbered_nil _).choose_spec.2
  have searched := (scan_searchedTo ledger_lists ⟨0, 1, 3, 1000, 60, .takeFirst⟩ rfl (by decide)
    (by decide) key ps numbered (by decide)).1
  have computed : ((ledger fun _ => []).scan ⟨0, 1, 3, 1000, 60, .takeFirst⟩ key ps).1 = .ok 1 := by
    decide +kernel
  have start : scanStart key.baseline 0 = 0 := by decide
  refine ⟨computed, ?_⟩
  have least := (searched.found 1).1 computed
  rw [start] at least
  exact least

end GovernanceContract

end Governance
