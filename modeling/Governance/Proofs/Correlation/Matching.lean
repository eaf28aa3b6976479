import Governance.Correlation.Scan
import Governance.Proofs.Runs

/-!
# What a page says about a key

Which proposals a key describes (`CorrelationKey.Describes`), what the matches on a page are
(`findMatches_cons_iff`), which of several is meant (`pick_eq_ok_iff`), and what one page decides about a
scan: nothing exactly if it is full, has no match, and is not an empty first page (`verdict_eq_none_iff`);
otherwise one of the outcomes of `verdict_cases`. The loop goes by these decisions (`scanPages_page`), so
nothing beyond this file opens it.
-/

namespace Governance

namespace CorrelationKey

/-- What makes a proposal the one that a key describes: it is in progress, of the expected kind, and its
payload holds every distinguishing field. -/
structure Describes (key : CorrelationKey) (p : Proposal) : Prop where
  inProgress : p.status = .inProgress
  holds : ∃ kind, p.kind = .known kind ∧ kind.tag = key.expectedKind ∧
    ∀ path expected, key.fields.get? path = some expected →
      ∃ v, Fields.lookup kind.payload path = some v ∧ v.same expected = true

/-- All fields are held exactly if each one is. -/
theorem holdIn_iff (fields : Fields) (payload : Json.Value) :
    fields.holdIn payload = true ↔ ∀ path expected, fields.get? path = some expected →
      ∃ v, Fields.lookup payload path = some v ∧ v.same expected = true := by
  simp only [Fields.holdIn, List.all_eq_true, Option.any_eq_true, Prod.forall, StringMap.mem_entries]

theorem accepts_iff {key : CorrelationKey} {p : Proposal} :
    key.accepts p = true ↔ key.Describes p := by
  constructor
  · intro h
    rw [accepts, Bool.and_eq_true, Option.any_eq_true] at h
    obtain ⟨progress, kind, known, same⟩ := h
    rw [Bool.and_eq_true, decide_eq_true_iff, holdIn_iff] at same
    refine ⟨of_decide_eq_true progress, kind, ?_, same⟩
    cases hk : p.kind with
    | known other =>
      rw [hk] at known
      exact congrArg ListedKind.known (Option.some.inj known)
    | unrecognized v =>
      rw [hk] at known
      cases known
  · rintro ⟨progress, kind, known, tag, fields⟩
    rw [accepts, Bool.and_eq_true, Option.any_eq_true]
    refine ⟨decide_eq_true progress, kind, by rw [known]; rfl, ?_⟩
    rw [Bool.and_eq_true, decide_eq_true_iff, holdIn_iff]
    exact ⟨tag, fields⟩

theorem not_accepts_iff {key : CorrelationKey} {p : Proposal} :
    key.accepts p = false ↔ ¬ key.Describes p := by
  rw [← accepts_iff, Bool.not_eq_true]

/-! ## The matches on a page -/

theorem findMatches_eq_nil_iff {key : CorrelationKey} {page : List Proposal} :
    key.findMatches page = [] ↔ ∀ p ∈ page, ¬ key.Describes p := by
  simp only [findMatches, List.map_eq_nil_iff, List.filter_eq_nil_iff, accepts_iff]

/-- The matches are the IDs of the proposals that the key describes. -/
theorem mem_findMatches_iff {key : CorrelationKey} {page : List Proposal} {id : UInt64} :
    id ∈ key.findMatches page ↔ ∃ p ∈ page, p.id = id ∧ key.Describes p := by
  rw [findMatches, List.mem_map]
  constructor
  · rintro ⟨p, hp, place⟩
    obtain ⟨onPage, accepted⟩ := List.mem_filter.1 hp
    exact ⟨p, onPage, place, accepts_iff.1 accepted⟩
  · rintro ⟨p, onPage, place, described⟩
    exact ⟨p, List.mem_filter.2 ⟨onPage, accepts_iff.2 described⟩, place⟩

/-- The first match is the ID of the first proposal that the key describes. -/
theorem findMatches_cons_iff {key : CorrelationKey} {page : List Proposal} {id : UInt64}
    {ids : List UInt64} :
    key.findMatches page = id :: ids ↔ ∃ before p after, page = before ++ p :: after ∧ p.id = id ∧
      key.Describes p ∧ (∀ q ∈ before, ¬ key.Describes q) ∧ key.findMatches after = ids := by
  simp only [findMatches, List.map_eq_cons_iff, List.filter_eq_cons_iff, ← accepts_iff]
  constructor
  · rintro ⟨p, rest, ⟨before, after, split, none, accepted, others⟩, hid, hids⟩
    exact ⟨before, p, after, split, hid, accepted, none, by rw [others, hids]⟩
  · rintro ⟨before, p, after, split, hid, accepted, none, hids⟩
    exact ⟨p, _, ⟨before, after, split, none, accepted, rfl⟩, hid, hids⟩

/-- An ID is picked if it is the first, and under refusal the only one. -/
theorem pick_eq_ok_iff {ambiguity : Ambiguity} {ids : List UInt64} {id : UInt64} :
    pick ambiguity ids = .ok id ↔
      ids.head? = some id ∧ (ambiguity = .reject → ids.length = 1) := by
  rcases ids with _ | ⟨a, _ | ⟨b, rest⟩⟩
  · simp [pick]
  · simp [pick]
  · cases ambiguity <;> simp [pick]

/-- Among matches nothing is picked only if there are several and that is to be refused. -/
theorem pick_eq_error_iff {ambiguity : Ambiguity} {ids : List UInt64} {e : Error} (nonempty : ids ≠ []) :
    pick ambiguity ids = .error e ↔
      ambiguity = .reject ∧ 2 ≤ ids.length ∧ e = .ambiguousMatch ids := by
  rcases ids with _ | ⟨a, _ | ⟨b, rest⟩⟩
  · exact absurd rfl nonempty
  · simp [pick]
  · cases ambiguity <;> simp [pick, eq_comm]

end CorrelationKey

/-! ## What one page decides -/

namespace GovernanceContract

variable {options : ScanOptions} {key : CorrelationKey} {start : UInt64} {isFirst : Bool}
  {scanned : Nat} {page : List Proposal}

/-- A page leaves the outcome open if it is full, has no match, and is not an empty first page. -/
theorem verdict_eq_none_iff :
    verdict options key start isFirst scanned page = none ↔
      (isFirst = true → page ≠ []) ∧ options.pageSize.toNat ≤ page.length ∧
        ∀ p ∈ page, ¬ key.Describes p := by
  rw [← CorrelationKey.findMatches_eq_nil_iff]
  unfold verdict
  split
  · next empty =>
    rw [Bool.and_eq_true, List.isEmpty_iff] at empty
    simp [empty]
  · next progress =>
    rw [Bool.and_eq_true, List.isEmpty_iff] at progress
    cases key.findMatches page with
    | cons id ids => simp
    | nil =>
      dsimp only
      split
      · next short => simp [Nat.not_le.2 short]
      · next full =>
        have full := Nat.not_lt.1 full
        simp only [full, and_self, and_true, true_iff]
        exact fun first none => progress ⟨none, first⟩

/-- What a page decides: that nothing is listed, that nothing listed matches, or what the matches say. -/
theorem verdict_cases {outcome : Except Error UInt64}
    (h : verdict options key start isFirst scanned page = some outcome) :
    (isFirst = true ∧ page = [] ∧ outcome = .error (.emptyWindow start)) ∨
    (page.length < options.pageSize.toNat ∧ key.findMatches page = [] ∧
      outcome = .error (.notFound key.expectedKind.name (scanned + page.length))) ∨
    (key.findMatches page ≠ [] ∧
      outcome = CorrelationKey.pick options.ambiguity (key.findMatches page)) := by
  unfold verdict at h
  split at h
  · next empty =>
    rw [Bool.and_eq_true, List.isEmpty_iff] at empty
    exact .inl ⟨empty.2, empty.1, (Option.some.inj h).symm⟩
  · cases found : key.findMatches page with
    | cons id ids =>
      rw [found] at h
      exact .inr (.inr ⟨List.cons_ne_nil _ _, (Option.some.inj h).symm⟩)
    | nil =>
      rw [found] at h
      dsimp only at h
      split at h
      · next short => exact .inr (.inl ⟨short, rfl, (Option.some.inj h).symm⟩)
      · cases h

/-- What is picked from a page is on the page, and matches. -/
theorem verdict_eq_ok {id : UInt64}
    (h : verdict options key start isFirst scanned page = some (.ok id)) :
    ∃ p ∈ page, p.id = id ∧ key.Describes p := by
  rcases verdict_cases h with ⟨_, _, same⟩ | ⟨_, _, same⟩ | ⟨_, same⟩
  · cases same
  · cases same
  · have first := (CorrelationKey.pick_eq_ok_iff.1 same.symm).1
    exact CorrelationKey.mem_findMatches_iff.1 (List.mem_of_head? first)

/-- If the first match is taken, a page decides what a search of it decides. -/
theorem verdict_takeFirst (takeFirst : options.ambiguity = .takeFirst) (start : UInt64)
    (isFirst : Bool) (scanned : Nat) (page : List Proposal) :
    verdict options key start isFirst scanned page =
      if page.isEmpty && isFirst then some (.error (.emptyWindow start))
      else
        match page.find? key.accepts with
        | some p => some (.ok p.id)
        | none =>
          if page.length < options.pageSize.toNat then
            some (.error (.notFound key.expectedKind.name (scanned + page.length)))
          else none := by
  have first : (key.findMatches page).head? = (page.find? key.accepts).map Proposal.id := by
    rw [CorrelationKey.findMatches, List.head?_map, List.head?_filter]
  rw [verdict]
  split
  · rfl
  · cases found : page.find? key.accepts with
    | none =>
      rw [found] at first
      rw [List.head?_eq_none_iff.1 first]
    | some p =>
      rw [found] at first
      obtain ⟨ids, eq⟩ := List.head?_eq_some_iff.1 first
      have picked : CorrelationKey.pick options.ambiguity (p.id :: ids) = .ok p.id :=
        CorrelationKey.pick_eq_ok_iff.2 ⟨rfl, fun refuse => by rw [takeFirst] at refuse; cases refuse⟩
      rw [eq]
      exact congrArg some picked

/-! ## One step of the loop -/

section

variable {σ : Type} {contract : GovernanceContract (StateM σ)} {pages : Nat} {index : UInt64} {s t : σ}

/-- If a page cannot be had, the scan fails as the contract does. -/
theorem scanPages_error {e : Error}
    (asked : contract.listProposals index options.pageSize s = (.error e, t)) :
    contract.scanPages options key start (pages + 1) isFirst index scanned s = (.error e, t) := by
  rw [scanPages, run_bind_error asked]

/-- A page decides the scan, or the next one is read from the state in which this one was answered. -/
theorem scanPages_page (asked : contract.listProposals index options.pageSize s = (.ok page, t)) :
    contract.scanPages options key start (pages + 1) isFirst index scanned s =
      match verdict options key start isFirst scanned page with
      | some outcome => (outcome, t)
      | none =>
        contract.scanPages options key start pages false (nextIndex index options.pageSize)
          (scanned + page.length) t := by
  rw [scanPages, run_bind_ok asked]
  cases verdict options key start isFirst scanned page with
  | some outcome => exact run_liftExcept outcome
  | none => rfl

end

end GovernanceContract

end Governance
