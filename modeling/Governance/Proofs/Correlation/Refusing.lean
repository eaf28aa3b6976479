import Governance.Correlation.Polling
import Governance.Proofs.Contract.Register
import Governance.Proofs.Correlation.Search
import Mathlib.Data.Set.Basic

/-!
# Refusing to choose

If several matches are refused, the first page with a match decides: a single match on it is given, several are
refused. Matches on later pages are never seen. `RefusalOutcome` says in terms of matching IDs how a search ends;
`scanPages_refusal` is the induction over the pages, against a contract that answers every range of IDs while
others append to its list. The invariant is that the IDs looked at so far are all assigned and do not match, so
nothing that comes later can match there (`Follows.unmatched`). Main statement: what a scan and what looking again
give is told by the list at the last request and by where pages end (`refusal_by_first_page`).
-/

namespace Governance

variable {key : CorrelationKey} {ps : List Proposal}

/-! ## The matches on a page -/

namespace CorrelationKey

/-- The matches on a page are the matching IDs in its range. -/
theorem mem_findMatches_pageOf {fromIndex limit id : UInt64} :
    id ∈ key.findMatches (pageOf ps fromIndex limit) ↔
      id.toNat ∈ key.matchingIds ps fromIndex.toNat (fromIndex.toNat + limit.toNat) := by
  have range : ∀ p, p ∈ pageOf ps fromIndex limit ↔ p ∈ ps ∧
      fromIndex.toNat ≤ p.id.toNat ∧ p.id.toNat < fromIndex.toNat + limit.toNat := by
    intro p
    rw [pageOf, List.mem_filter, decide_eq_true_iff, UInt64.le_iff_toNat_le]
  rw [mem_findMatches_iff]
  constructor
  · rintro ⟨p, hp, rfl, described⟩
    obtain ⟨here, lower, upper⟩ := (range p).1 hp
    exact ⟨lower, upper, p, here, rfl, described⟩
  · rintro ⟨lower, upper, p, here, place, described⟩
    rw [← place] at lower upper
    exact ⟨p, (range p).2 ⟨here, lower, upper⟩, UInt64.toNat_inj.1 place, described⟩

/-- On a page of a numbered list the matches stand in ascending order. -/
theorem findMatches_ascending (numbered : Numbered ps) (fromIndex limit : UInt64) :
    (key.findMatches (pageOf ps fromIndex limit)).Pairwise (· < ·) := by
  have whole : ps.Pairwise fun p q => p.id < q.id := by
    rw [List.pairwise_iff_getElem]
    intro i j hi hj before
    rw [UInt64.lt_iff_toNat_lt, numbered i _ (List.getElem?_eq_getElem hi),
      numbered j _ (List.getElem?_eq_getElem hj)]
    exact before
  rw [findMatches, List.pairwise_map]
  exact whole.sublist (List.filter_sublist.trans List.filter_sublist)

/-- A wider range has more matches. -/
theorem matchingIds_mono {first bound bound' : Nat} (le : bound ≤ bound') :
    key.matchingIds ps first bound ⊆ key.matchingIds ps first bound' := by
  rintro n ⟨lower, upper, described⟩
  exact ⟨lower, Nat.lt_of_lt_of_le upper le, described⟩

/-- If nothing before a page matches, the matches up to its end are those on it. A page that would begin beyond
the last 64-bit ID is the page of that ID, which was looked at before. -/
theorem matchingIds_next {start fromIndex limit : UInt64} {bound : Nat}
    (begins : fromIndex.toNat = min bound (UInt64.size - 1)) (after : start.toNat ≤ bound)
    (none : key.matchingIds ps start.toNat bound = ∅) :
    key.matchingIds ps start.toNat (bound + limit.toNat) =
      {n | ∃ id ∈ key.findMatches (pageOf ps fromIndex limit), id.toNat = n} := by
  have start_lt : start.toNat < UInt64.size := start.toNat_lt
  ext n
  constructor
  · rintro ⟨lower, upper, p, hp, rfl, described⟩
    have id_lt : p.id.toNat < UInt64.size := p.id.toNat_lt
    have new : bound ≤ p.id.toNat := by
      refine Nat.le_of_not_lt fun old => ?_
      have matching : p.id.toNat ∈ key.matchingIds ps start.toNat bound :=
        ⟨lower, old, p, hp, rfl, described⟩
      rw [none] at matching
      exact matching
    refine ⟨p.id, mem_findMatches_pageOf.2 ⟨by omega, by omega, p, hp, rfl, described⟩, rfl⟩
  · rintro ⟨id, found, rfl⟩
    obtain ⟨lower, upper, described⟩ := mem_findMatches_pageOf.1 found
    exact ⟨by omega, by omega, described⟩

/-- If there are no matches on the page either, there are none up to its end. -/
theorem matchingIds_next_empty {start fromIndex limit : UInt64} {bound : Nat}
    (begins : fromIndex.toNat = min bound (UInt64.size - 1)) (after : start.toNat ≤ bound)
    (none : key.matchingIds ps start.toNat bound = ∅)
    (empty : key.findMatches (pageOf ps fromIndex limit) = []) :
    key.matchingIds ps start.toNat (bound + limit.toNat) = ∅ := by
  rw [matchingIds_next begins after none, empty]
  exact Set.eq_empty_of_forall_notMem fun _ ⟨_, onPage, _⟩ => List.not_mem_nil onPage

/-- If a page is not full, the list ends on it, and no later page has a match. -/
theorem matchingIds_ended (numbered : Numbered ps) {first : Nat} {fromIndex limit : UInt64}
    {bound : Nat} (begins : fromIndex.toNat ≤ bound)
    (ends : (pageOf ps fromIndex limit).length < limit.toNat ∨ pageOf ps fromIndex limit = [])
    (none : key.matchingIds ps first (bound + limit.toNat) = ∅) (pages : Nat) :
    key.matchingIds ps first (bound + (pages + 1) * limit.toNat) = ∅ := by
  rw [pageOf_eq_take_drop numbered] at ends
  have ended : limit.toNat = 0 ∨ ps.length ≤ bound + limit.toNat := by
    rcases ends with short | empty
    · rw [List.length_take, List.length_drop] at short
      omega
    · rcases List.take_eq_nil_iff.1 empty with nothing | past
      · exact .inl nothing
      · have := List.drop_eq_nil_iff.1 past
        omega
  rcases ended with nothing | past
  · rw [nothing] at none ⊢
    rw [Nat.mul_zero]
    exact none
  · rw [Set.eq_empty_iff_forall_notMem] at none ⊢
    rintro _ ⟨lower, _, p, hp, rfl, described⟩
    have inside := numbered.id_lt_length hp
    exact none _ ⟨lower, by omega, p, hp, rfl, described⟩

end CorrelationKey

/-! ## How a search ends -/

/-- How a search ends that looks at up to `pages` pages of `size` IDs each: by the only match up to the end of a
page, by several on the first page with a match, or, with an error for it, by no match at all. Nothing
is said about IDs from `first` up to `bound`, where the first of these pages begins, but that they do not match. -/
inductive RefusalOutcome (key : CorrelationKey) (ps : List Proposal) (first bound size pages : Nat)
    (unseen : Error → Prop) : Except Error UInt64 → Prop
  | only {i : Nat} {id : UInt64} : i < pages →
    key.matchingIds ps first (bound + (i + 1) * size) = {id.toNat} →
    RefusalOutcome key ps first bound size pages unseen (.ok id)
  | several {i : Nat} {ids : List UInt64} : i < pages →
    key.matchingIds ps first (bound + i * size) = ∅ →
    key.matchingIds ps first (bound + (i + 1) * size) = {n | ∃ id ∈ ids, id.toNat = n} →
    ids.Pairwise (· < ·) → 2 ≤ ids.length →
    RefusalOutcome key ps first bound size pages unseen (.error (.ambiguousMatch ids))
  | none {e : Error} : unseen e → key.matchingIds ps first (bound + pages * size) = ∅ →
    RefusalOutcome key ps first bound size pages unseen (.error e)

namespace RefusalOutcome

variable {first bound size pages : Nat} {unseen unseen' : Error → Prop}
  {outcome : Except Error UInt64}

/-- A page without a match may be put in front. -/
theorem behind (h : RefusalOutcome key ps first (bound + size) size pages unseen outcome) :
    RefusalOutcome key ps first bound size (pages + 1) unseen outcome := by
  have shift : ∀ i, bound + size + i * size = bound + (i + 1) * size := by
    intro i
    rw [Nat.succ_mul]
    omega
  cases h with
  | only within matching =>
    rw [shift] at matching
    exact .only (Nat.succ_lt_succ within) matching
  | several within none matching ascending several =>
    rw [shift] at none matching
    exact .several (Nat.succ_lt_succ within) none matching ascending several
  | none e none =>
    rw [shift] at none
    exact .none e none

/-- One match on a page is given and several are refused. -/
theorem picked {matched : List UInt64} (matches_some : matched ≠ [])
    (none : key.matchingIds ps first bound = ∅)
    (matching : key.matchingIds ps first (bound + size) = {n | ∃ id ∈ matched, id.toNat = n})
    (ascending : matched.Pairwise (· < ·)) :
    RefusalOutcome key ps first bound size (pages + 1) unseen
      (CorrelationKey.pick .reject matched) := by
  rcases matched with _ | ⟨id, _ | ⟨id', rest⟩⟩
  · exact absurd rfl matches_some
  · refine .only (Nat.succ_pos pages) ?_
    rw [Nat.zero_add, Nat.one_mul, matching]
    ext n
    simp [eq_comm]
  · refine .several (Nat.succ_pos pages) ?_ ?_ ascending (by simp)
    · rw [Nat.zero_mul]
      exact none
    · rw [Nat.zero_add, Nat.one_mul]
      exact matching

/-- An error that stands for no match may be put in place of another. -/
theorem replaced {e e' : Error} (h : RefusalOutcome key ps first bound size pages unseen (.error e))
    (was : unseen e) (others : ∀ ids, ¬ unseen (.ambiguousMatch ids)) (is : unseen' e') :
    RefusalOutcome key ps first bound size pages unseen' (.error e') := by
  cases h with
  | several => exact absurd was (others _)
  | none _ none => exact .none is none

/-- Another error may stand for no match if none was met. -/
theorem decided (h : RefusalOutcome key ps first bound size pages unseen outcome)
    (seen : ∀ e, outcome = .error e → ¬ unseen e) :
    RefusalOutcome key ps first bound size pages unseen' outcome := by
  cases h with
  | only within matching => exact .only within matching
  | several within none matching ascending several =>
    exact .several within none matching ascending several
  | none e => exact absurd e (seen _ rfl)

end RefusalOutcome

/-- What a search comes to that refuses several matches, among the IDs of a list from `first` on: a complete
account, since each line says exactly when its outcome occurs. `unseen` are the errors for no match. -/
structure RefusedTo (key : CorrelationKey) (ps : List Proposal) (first size pages : Nat)
    (unseen : Error → Prop) (outcome : Except Error UInt64) : Prop where
  /-- An ID is given if it is the only match up to the end of a page. -/
  found : ∀ id, outcome = .ok id ↔
    ∃ i < pages, key.matchingIds ps first (first + (i + 1) * size) = {id.toNat}
  /-- The choice is refused if the first page with a match has several. -/
  ambiguous : (∃ ids, outcome = .error (.ambiguousMatch ids)) ↔
    ∃ i < pages, key.matchingIds ps first (first + i * size) = ∅ ∧
      (key.matchingIds ps first (first + (i + 1) * size)).Nontrivial
  /-- The error names the matches on that page, in ascending order. -/
  named : ∀ ids, outcome = .error (.ambiguousMatch ids) → ids.Pairwise (· < ·) ∧
    ∃ i < pages, key.matchingIds ps first (first + i * size) = ∅ ∧
      key.matchingIds ps first (first + (i + 1) * size) = {n | ∃ id ∈ ids, id.toNat = n}
  /-- Nothing is seen if no ID on any page matches. -/
  unseen : (∃ e, unseen e ∧ outcome = .error e) ↔
    key.matchingIds ps first (first + pages * size) = ∅

/-- Two IDs in ascending order are two numbers. -/
theorem nontrivial_of_ascending {ids : List UInt64} (ascending : ids.Pairwise (· < ·))
    (several : 2 ≤ ids.length) : {n | ∃ id ∈ ids, id.toNat = n}.Nontrivial := by
  rcases ids with _ | ⟨a, _ | ⟨b, rest⟩⟩
  · exact absurd several (by decide)
  · exact absurd several (by simp)
  · have less : a < b := (List.pairwise_cons.1 ascending).1 b List.mem_cons_self
    refine ⟨a.toNat, ⟨a, by simp, rfl⟩, b.toNat, ⟨b, by simp, rfl⟩, ?_⟩
    exact Nat.ne_of_lt (UInt64.lt_iff_toNat_lt.1 less)

/-- The ways in which a search ends exclude each other. -/
theorem RefusalOutcome.refusedTo {first size pages : Nat} {unseen : Error → Prop}
    {outcome : Except Error UInt64} (others : ∀ ids, ¬ unseen (.ambiguousMatch ids))
    (h : RefusalOutcome key ps first first size pages unseen outcome) :
    RefusedTo key ps first size pages unseen outcome := by
  -- more pages, more matches
  have mono : ∀ {i j}, i ≤ j → key.matchingIds ps first (first + i * size) ⊆
      key.matchingIds ps first (first + j * size) := fun le =>
    CorrelationKey.matchingIds_mono (Nat.add_le_add_left (Nat.mul_le_mul_right _ le) _)
  have not_empty : ∀ {i j n}, i ≤ j → n ∈ key.matchingIds ps first (first + i * size) →
      ¬ key.matchingIds ps first (first + j * size) = ∅ := by
    intro i j n le matching none
    have := mono le matching
    rw [none] at this
    exact this
  cases h with
  | @only i id within matching =>
    have here : id.toNat ∈ key.matchingIds ps first (first + (i + 1) * size) :=
      matching.ge (Set.mem_singleton _)
    refine ⟨fun id' => ⟨?_, ?_⟩, ⟨nofun, ?_⟩, nofun, ⟨nofun, ?_⟩⟩
    · intro same
      cases same
      exact ⟨i, within, matching⟩
    · rintro ⟨j, _, matching'⟩
      rcases Nat.le_total (i + 1) (j + 1) with le | le
      · have := mono le here
        rw [matching'] at this
        rw [UInt64.toNat_inj.1 this]
      · have := mono le (matching'.ge (Set.mem_singleton _))
        rw [matching] at this
        rw [UInt64.toNat_inj.1 this]
    · rintro ⟨j, _, none, several⟩
      rcases Nat.lt_or_ge i j with before | le
      · exact absurd none (not_empty before here)
      · have := several.mono (mono (Nat.succ_le_succ le))
        rw [matching] at this
        exact absurd this Set.not_nontrivial_singleton
    · exact fun none => absurd none (not_empty within here)
  | @several i ids within none matching ascending several =>
    have two : (key.matchingIds ps first (first + (i + 1) * size)).Nontrivial := by
      rw [matching]
      exact nontrivial_of_ascending ascending several
    refine ⟨fun id => ⟨nofun, ?_⟩, ⟨fun _ => ⟨i, within, none, two⟩, fun _ => ⟨ids, rfl⟩⟩, ?_,
      ⟨?_, ?_⟩⟩
    · rintro ⟨j, _, matching'⟩
      rcases Nat.lt_or_ge j i with before | le
      · exact absurd none (not_empty before (matching'.ge (Set.mem_singleton _)))
      · have := two.mono (mono (Nat.succ_le_succ le))
        rw [matching'] at this
        exact absurd this Set.not_nontrivial_singleton
    · intro ids' same
      cases same
      exact ⟨ascending, i, within, none, matching⟩
    · rintro ⟨e, was, same⟩
      cases same
      exact absurd was (others ids)
    · obtain ⟨n, here⟩ := two.nonempty
      exact fun none => absurd none (not_empty within here)
  | @none e was none =>
    refine ⟨fun id => ⟨nofun, ?_⟩, ⟨?_, ?_⟩, ?_, ⟨fun _ => none, fun _ => ⟨e, was, rfl⟩⟩⟩
    · rintro ⟨j, within, matching⟩
      exact absurd none (not_empty within (matching.ge (Set.mem_singleton _)))
    · rintro ⟨ids, same⟩
      cases same
      exact absurd was (others ids)
    · rintro ⟨j, within, _, several⟩
      obtain ⟨n, there⟩ := several.nonempty
      exact absurd none (not_empty within there)
    · intro ids same
      cases same
      exact absurd was (others ids)

/-! ## Scanning and looking again -/

namespace GovernanceContract

variable {σ : Type} {contract : GovernanceContract (StateM σ)} {listed : σ → List Proposal}
  {options : ScanOptions} {s t u : σ}

/-- What requests for pages lead to: IDs are still positions, and the list is a later one; if requests do not
change it, it is the same. -/
structure Follows (contract : GovernanceContract (StateM σ)) (listed : σ → List Proposal)
    (s t : σ) : Prop where
  numbered : Numbered (listed t)
  becomes : (Register.counting (listed s)).Becomes (.counting (listed t))
  same : (∀ u fromIndex limit,
    listed (contract.listProposals fromIndex limit u).2 = listed u) → listed t = listed s

namespace Follows

theorem refl (numbered : Numbered (listed s)) : contract.Follows listed s s :=
  ⟨numbered, .refl _, fun _ => rfl⟩

theorem trans (first : contract.Follows listed s t) (second : contract.Follows listed t u) :
    contract.Follows listed s u where
  numbered := second.numbered
  becomes := first.becomes.trans second.becomes
  same unchanged := (second.same unchanged).trans (first.same unchanged)

/-- IDs that were assigned and did not match will not match later. -/
theorem unmatched (h : contract.Follows listed s t) {first bound : Nat}
    (assigned : ∀ id : UInt64, first ≤ id.toNat → id.toNat < bound → id.toNat < (listed s).length)
    (none : key.matchingIds (listed s) first bound = ∅) :
    key.matchingIds (listed t) first bound = ∅ := by
  rw [Set.eq_empty_iff_forall_notMem] at none ⊢
  rintro _ ⟨lower, upper, q, hq, rfl, described⟩
  obtain ⟨p, hp, place, described'⟩ :=
    h.becomes.describes hq (assigned q.id lower upper) described
  exact none _ ⟨lower, upper, p, hp, congrArg UInt64.toNat place, described'⟩

end Follows

/-- A request is answered with the range, and leads on. -/
theorem Ranges.asked (ranges : contract.Ranges listed) (numbered : Numbered (listed s))
    (fromIndex limit : UInt64) :
    ∃ t, contract.listProposals fromIndex limit s = (.ok (pageOf (listed s) fromIndex limit), t) ∧
      contract.Follows listed s t := by
  obtain ⟨t, asked, numbered', becomes⟩ := ranges.listProposals s fromIndex limit numbered
  refine ⟨t, asked, numbered', becomes, fun unchanged => ?_⟩
  have := unchanged s fromIndex limit
  rw [asked] at this
  exact this

/-- **Pages decide one after the other.** The induction is on the pages that may still be read, of which the
first begins at `bound`, or at the last 64-bit ID if that is smaller. All IDs before it are assigned, and none
of them matches; `u` is the state in which the last request is made. -/
theorem scanPages_refusal (ranges : contract.Ranges listed) (reject : options.ambiguity = .reject)
    (key : CorrelationKey) (start : UInt64) (pages : Nat) (isFirst : Bool) (index : UInt64)
    (scanned : Nat) (s : σ) {bound : Nat} (numbered : Numbered (listed s))
    (begins : index.toNat = min bound (UInt64.size - 1)) (after : start.toNat ≤ bound)
    (assigned : ∀ id : UInt64, start.toNat ≤ id.toNat → id.toNat < bound →
      id.toNat < (listed s).length)
    (none : key.matchingIds (listed s) start.toNat bound = ∅) :
    ∃ u, contract.Follows listed s u ∧
      contract.Follows listed u
        (contract.scanPages options key start pages isFirst index scanned s).2 ∧
      RefusalOutcome key (listed u) start.toNat bound options.pageSize.toNat pages
        (fun e => e.isPending = true)
        (contract.scanPages options key start pages isFirst index scanned s).1 := by
  induction pages generalizing isFirst index scanned s bound with
  | zero =>
    refine ⟨s, .refl numbered, .refl numbered, .none rfl ?_⟩
    rw [Nat.zero_mul]
    exact none
  | succ pages ih =>
    obtain ⟨t, asked, follows⟩ := ranges.asked numbered index options.pageSize
    have begins_le : index.toNat ≤ bound := by
      rw [begins]
      exact Nat.min_le_left _ _
    rw [scanPages_page asked]
    cases decides :
        verdict options key start isFirst scanned (pageOf (listed s) index options.pageSize) with
    | some outcome =>
      refine ⟨s, .refl numbered, follows, ?_⟩
      -- without a match the page is not full, and the list ends on it
      have ended : ((pageOf (listed s) index options.pageSize).length < options.pageSize.toNat ∨
          pageOf (listed s) index options.pageSize = []) →
          key.findMatches (pageOf (listed s) index options.pageSize) = [] →
          key.matchingIds (listed s) start.toNat (bound + (pages + 1) * options.pageSize.toNat) =
            ∅ := by
        intro ends empty
        exact CorrelationKey.matchingIds_ended numbered begins_le ends
          (CorrelationKey.matchingIds_next_empty begins after none empty) pages
      rcases verdict_cases decides with ⟨_, nothing, rfl⟩ | ⟨short, empty, rfl⟩ | ⟨some, rfl⟩
      · exact .none rfl (ended (.inr nothing) (by rw [nothing]; rfl))
      · exact .none rfl (ended (.inl short) empty)
      · rw [reject]
        exact .picked some none (CorrelationKey.matchingIds_next begins after none)
          (CorrelationKey.findMatches_ascending numbered _ _)
    | none =>
      obtain ⟨_, full, empty⟩ := verdict_eq_none_iff.1 decides
      rw [← CorrelationKey.findMatches_eq_nil_iff] at empty
      have none' : key.matchingIds (listed s) start.toNat (bound + options.pageSize.toNat) = ∅ :=
        CorrelationKey.matchingIds_next_empty begins after none empty
      have assigned' : ∀ id : UInt64, start.toNat ≤ id.toNat →
          id.toNat < bound + options.pageSize.toNat → id.toNat < (listed s).length := by
        intro id lower upper
        by_cases old : id.toNat < bound
        · exact assigned id lower old
        · -- the ID is on the page, and the page is full
          have id_lt : id.toNat < UInt64.size := id.toNat_lt
          rw [pageOf_eq_take_drop numbered, List.length_take, List.length_drop] at full
          omega
      have grown : (listed s).length ≤ (listed t).length := follows.becomes.next_le
      obtain ⟨u, follows', rest, outcome⟩ :=
        @ih false (nextIndex index options.pageSize)
          (scanned + (pageOf (listed s) index options.pageSize).length) t
          (bound + options.pageSize.toNat) follows.numbered
          (by rw [nextIndex_toNat]; omega) (by omega)
          (fun id lower upper => Nat.lt_of_lt_of_le (assigned' id lower upper) grown)
          (follows.unmatched assigned' none')
      exact ⟨u, follows.trans follows', rest, outcome.behind⟩

/-- How a scan ends, in terms of the list at its last request. -/
theorem scan_refusal (ranges : contract.Ranges listed) (reject : options.ambiguity = .reject)
    (key : CorrelationKey) (s : σ) (numbered : Numbered (listed s)) :
    ∃ u, contract.Follows listed s u ∧ contract.Follows listed u (contract.scan options key s).2 ∧
      RefusalOutcome key (listed u) (scanStart key.baseline options.window).toNat
        (scanStart key.baseline options.window).toNat options.pageSize.toNat options.maxPages
        (fun e => e.isPending = true) (contract.scan options key s).1 := by
  have start_lt : (scanStart key.baseline options.window).toNat < UInt64.size :=
    (scanStart key.baseline options.window).toNat_lt
  refine scanPages_refusal ranges reject key _ _ _ _ _ s numbered (by omega) (Nat.le_refl _) ?_ ?_
  · intro id lower upper
    omega
  · rw [Set.eq_empty_iff_forall_notMem]
    rintro _ ⟨lower, upper, _⟩
    omega

/-- How looking again ends, in terms of the list at its last request. -/
theorem resolve_refusal (ranges : contract.Ranges listed) (reject : options.ambiguity = .reject)
    (key : CorrelationKey) (patience : Nat) (s : σ) (numbered : Numbered (listed s)) :
    ∃ u, contract.Follows listed s u ∧
      contract.Follows listed u (contract.resolve options patience key s).2 ∧
      RefusalOutcome key (listed u) (scanStart key.baseline options.window).toNat
        (scanStart key.baseline options.window).toNat options.pageSize.toNat options.maxPages
        (fun e => e = .correlationTimeout options.timeout)
        (contract.resolve options patience key s).1 := by
  have keeps : ∀ v, contract.Follows listed s v →
      contract.Follows listed s (contract.scan options key v).2 := by
    intro v follows
    obtain ⟨u, first, second, _⟩ := scan_refusal ranges reject key v follows.numbered
    exact follows.trans (first.trans second)
  obtain ⟨v, follows, left, last⟩ := @attempts_last _ _ (contract.scan options key) s
    Error.isPending (.correlationTimeout options.timeout) _ keeps patience (.refl numbered)
  obtain ⟨u, first, second, outcome⟩ := scan_refusal ranges reject key v follows.numbered
  refine ⟨u, follows.trans first, ?_, ?_⟩
  · rw [resolve, pollUntil, left]
    exact second
  · rw [resolve, pollUntil]
    rcases last with ⟨same, decided⟩ | ⟨timeout, e, failed, pending⟩
    · rw [same]
      refine outcome.decided ?_
      intro e failed pending
      rw [decided e failed] at pending
      cases pending
    · rw [timeout]
      rw [failed] at outcome
      exact outcome.replaced pending (fun _ => Bool.false_ne_true) rfl

/-- **The first page with a match decides.** If several matches are refused, a scan gives an ID if it is the only
match from the scan start to the end of a page, and refuses to choose if the first page with a match has
several; otherwise no ID in reach matches. Looking again does the same, up to a timeout. All this is said of the
list in the state `u` in which the last page was requested: the list at hand, if requests do not change it. -/
theorem refusal_by_first_page (ranges : contract.Ranges listed) (reject : options.ambiguity = .reject)
    (key : CorrelationKey) (s : σ) (numbered : Numbered (listed s)) :
    (∃ u, contract.Follows listed s u ∧ contract.Follows listed u (contract.scan options key s).2 ∧
      RefusedTo key (listed u) (scanStart key.baseline options.window).toNat
        options.pageSize.toNat options.maxPages (fun e => e.isPending = true)
        (contract.scan options key s).1) ∧
    ∀ patience, ∃ u, contract.Follows listed s u ∧
      contract.Follows listed u (contract.resolve options patience key s).2 ∧
      RefusedTo key (listed u) (scanStart key.baseline options.window).toNat
        options.pageSize.toNat options.maxPages (fun e => e = .correlationTimeout options.timeout)
        (contract.resolve options patience key s).1 := by
  constructor
  · obtain ⟨u, first, second, outcome⟩ := scan_refusal ranges reject key s numbered
    exact ⟨u, first, second, outcome.refusedTo fun _ => Bool.false_ne_true⟩
  · intro patience
    obtain ⟨u, first, second, outcome⟩ := resolve_refusal ranges reject key patience s numbered
    exact ⟨u, first, second, outcome.refusedTo fun _ => nofun⟩

/-- Two of these three proposals match, and both are on the first page. -/
theorem refusal_of_two_on_a_page :
    let ps := [⟨"", .mintRoot 1⟩, ⟨"", .mintRoot 7⟩, ⟨"", .mintRoot 7⟩].foldl record []
    let key := CorrelationKey.forKind 0 (.mintRoot 7) default .epoch
    let options : ScanOptions := ⟨0, 3, 2, 1000, 60, .reject⟩
    ((ledger fun _ => []).scan options key ps).1 = .error (.ambiguousMatch [1, 2]) ∧
      ∃ i < 2, key.matchingIds ps 0 (0 + i * 3) = ∅ ∧
        (key.matchingIds ps 0 (0 + (i + 1) * 3)).Nontrivial := by
  intro ps key options
  have numbered : Numbered ps := (foldl_record numbered_nil _).choose_spec.2
  have computed : ((ledger fun _ => []).scan options key ps).1 =
      .error (.ambiguousMatch [1, 2]) := by
    decide +kernel
  have strict : options.ambiguity = .reject := rfl
  obtain ⟨u, follows, _, refused⟩ :=
    (refusal_by_first_page (ledger_ranges fun _ => []) strict key ps numbered).1
  obtain rfl : u = ps := follows.same fun _ _ _ => rfl
  have start : (scanStart key.baseline options.window).toNat = 0 := by decide
  have several := refused.ambiguous.1 ⟨_, computed⟩
  rw [start] at several
  exact ⟨computed, several⟩

/-- Two proposals match, but they are on different pages: the one with the smaller ID is given, by a scan and
by looking again, although several matches are refused. -/
theorem scan_gives_one_of_two_in_reach :
    let ps := [⟨"", .mintRoot 7⟩, ⟨"", .mintRoot 7⟩].foldl record []
    let key := CorrelationKey.forKind 0 (.mintRoot 7) default .epoch
    let options : ScanOptions := ⟨2, 1, 2, 1000, 60, .reject⟩
    (ledger fun _ => []).Ranges (fun ps => ps) ∧ Numbered ps ∧
      ((ledger fun _ => []).scan options key ps).1 = .ok 0 ∧
      ((ledger fun _ => []).resolve options 0 key ps).1 = .ok 0 ∧
      0 ∈ key.matchingIds ps 0 (0 + options.maxPages * options.pageSize.toNat) ∧
      1 ∈ key.matchingIds ps 0 (0 + options.maxPages * options.pageSize.toNat) := by
  intro ps key options
  have numbered : Numbered ps := (foldl_record numbered_nil _).choose_spec.2
  have matching : key.findMatches (pageOf ps 0 2) = [0, 1] := by decide +kernel
  have both : ∀ id ∈ [(0 : UInt64), 1], id.toNat ∈ key.matchingIds ps 0 2 := by
    intro id hid
    rw [← matching] at hid
    exact CorrelationKey.mem_findMatches_pageOf.1 hid
  exact ⟨ledger_ranges _, numbered, by decide +kernel, by decide +kernel, both 0 (by simp),
    both 1 (by simp)⟩

end GovernanceContract

end Governance
