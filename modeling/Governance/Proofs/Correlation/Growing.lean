import Governance.Proofs.Correlation.Search

/-!
# Scanning a list that grows

While a scan reads page after page, other users may append proposals. What was listed before stays where it is,
so they change nothing for a proposal that is already there and that no match stands before: the page it stands on
is read in time and is the first one with a match. Main statement: `scanPages_finds`.
-/

namespace Governance

variable {key : CorrelationKey}

/-- The first match in a list stands in it as in the stretch that is searched. -/
theorem find?_stretch {ps : List Proposal} {first size k : Nat} {p : Proposal} (here : ps[k]? = some p)
    (described : key.Describes p) (lower : first ≤ k) (upper : k < first + size)
    (before : ∀ i q, ps[i]? = some q → first ≤ i → i < k → ¬ key.Describes q) :
    ((ps.drop first).take size).find? key.accepts = some p := by
  have standing : ∀ i, i < size → ((ps.drop first).take size)[i]? = ps[first + i]? := by
    intro i hi
    rw [List.getElem?_take, if_pos hi, List.getElem?_drop]
  have own : ((ps.drop first).take size)[k - first]? = some p := by
    rw [standing _ (by omega), show first + (k - first) = k by omega]
    exact here
  obtain ⟨inside, eq⟩ := List.getElem?_eq_some_iff.1 own
  refine List.find?_eq_some_iff_getElem.2
    ⟨CorrelationKey.accepts_iff.2 described, k - first, inside, eq, ?_⟩
  intro j hj
  have other := List.getElem?_eq_getElem (Nat.lt_trans hj inside)
  rw [standing _ (by omega)] at other
  rw [CorrelationKey.not_accepts_iff.2 (before _ _ other (by omega) (by omega))]
  rfl

/-- A stretch before the first match has none. -/
theorem find?_stretch_before {ps : List Proposal} {first size k : Nat} (upper : first + size ≤ k)
    (before : ∀ i q, ps[i]? = some q → first ≤ i → i < k → ¬ key.Describes q) :
    ((ps.drop first).take size).find? key.accepts = none := by
  rw [List.find?_eq_none]
  intro q hq accepted
  obtain ⟨i, hi⟩ := List.mem_iff_getElem?.1 hq
  rw [List.getElem?_take] at hi
  split at hi
  · next lt =>
    rw [List.getElem?_drop] at hi
    exact before _ q hi (by omega) (by omega) (CorrelationKey.accepts_iff.1 accepted)
  · cases hi

namespace GovernanceContract

variable {σ : Type} {contract : GovernanceContract (StateM σ)} {listed : σ → List Proposal}
  {options : ScanOptions}

/-- **A proposal that is there when the scan begins is found,** if it lies in reach and no match stands before
it. The induction is on the pages that may still be read: none of them has been decided by a page before, and
what the last call left of the list is more than what the page was taken from. -/
theorem scanPages_finds (appends : contract.Appends listed)
    (takeFirst : options.ambiguity = .takeFirst) {k : Nat} {p : Proposal} (described : key.Describes p)
    (start : UInt64) (pages : Nat) (isFirst : Bool) (index : UInt64) (scanned : Nat) (s : σ)
    (numbered : Numbered (listed s)) (here : (listed s)[k]? = some p) (lower : index.toNat ≤ k)
    (upper : k < index.toNat + pages * options.pageSize.toNat)
    (before : ∀ i q, (listed s)[i]? = some q → index.toNat ≤ i → i < k → ¬ key.Describes q)
    (fits : index.toNat + pages * options.pageSize.toNat < UInt64.size) :
    (contract.scanPages options key start pages isFirst index scanned s).1 = .ok p.id := by
  induction pages generalizing isFirst index scanned s with
  | zero => omega
  | succ pages ih =>
    rw [Nat.succ_mul] at upper fits
    obtain ⟨t, others, asked, grown, numbered'⟩ :=
      appends.listProposals s index options.pageSize numbered (by omega)
    have inside : k < (listed s).length := (List.getElem?_eq_some_iff.1 here).1
    have size : 0 < options.pageSize.toNat := by
      refine Nat.pos_of_ne_zero ?_
      intro none
      rw [none, Nat.mul_zero] at upper
      omega
    have length : (((listed s).drop index.toNat).take options.pageSize.toNat).length =
        min options.pageSize.toNat ((listed s).length - index.toNat) := by
      rw [List.length_take, List.length_drop]
    have filled : (((listed s).drop index.toNat).take options.pageSize.toNat).isEmpty = false := by
      rw [List.isEmpty_eq_false_iff, ← List.length_pos_iff]
      omega
    rw [pageOf_eq_take_drop numbered] at asked
    rw [scanPages_page asked, verdict_takeFirst takeFirst, filled, Bool.false_and,
      if_neg Bool.false_ne_true]
    by_cases onPage : k < index.toNat + options.pageSize.toNat
    · -- the page has the proposal, and nothing before it matches
      rw [find?_stretch here described lower onPage before]
    · -- the page is full and ends before the proposal
      have next : (nextIndex index options.pageSize).toNat =
          index.toNat + options.pageSize.toNat := by
        rw [nextIndex_toNat, Nat.min_eq_left (by omega)]
      rw [find?_stretch_before (Nat.le_of_not_lt onPage) before]
      dsimp only
      rw [if_neg (by omega)]
      refine ih false _ _ t numbered' ?_ (by omega) (by omega) ?_ (by omega)
      · rw [grown, List.getElem?_append_left inside]
        exact here
      · intro i q hq lower' upper'
        rw [grown, List.getElem?_append_left (by omega)] at hq
        exact before i q hq (by omega) upper'

end GovernanceContract

end Governance
