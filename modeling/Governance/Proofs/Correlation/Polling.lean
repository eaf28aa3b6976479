import Governance.Correlation.Polling
import Governance.Proofs.Attempts
import Governance.Proofs.Contract.Listing
import Mathlib.Order.Nat

/-!
# How long a proposal is looked for

A scan whose answer is pending is followed by a question to the clock: a further delay is granted, or it is
not. A patience says how often in a row it is (`StandsFor`), and for every clock under which looking comes to
an end there is one (`exists_standsFor`). Looking stops at the first scan that is not pending or not followed
by a delay. The patience lasts until then (`StandsFor.stop_le`), and the attempts stop there too
(`attempts_of_stop`). Main statement: the outcome of that scan is the one of the search if it is not pending,
and otherwise the time is up (`resolve_first_stop`).
-/

namespace Governance

variable {σ α : Type}

/-! ## Clocks -/

/-- The patience that a clock amounts to in a search whose scans have the given outcomes; `granted` says of
each scan whether the clock grants a delay after it. That many delays are granted, and if no scan has ended
the search by then, the next one is refused. -/
structure StandsFor (patience : Nat) (granted : Nat → Bool) (o : Nat → Except Error α) : Prop where
  grants : ∀ k < patience, granted k = true
  refuses : (∀ k ≤ patience, ¬ Ends Error.isPending (o k)) → granted patience = false

/-- Where a search stops: after scans that end it, and after scans that no delay follows. -/
def stops (granted : Nat → Bool) (o : Nat → Except Error α) : Set Nat :=
  {k | Ends Error.isPending (o k) ∨ granted k = false}

variable {granted : Nat → Bool} {o : Nat → Except Error α} {patience n : Nat}

/-- If a search stops at all, it stops somewhere first. -/
theorem exists_first_stop (h : (stops granted o).Nonempty) : ∃ n, IsLeast (stops granted o) n := by
  classical
  exact ⟨_, h.isLeast_natFind⟩

/-- If a search stops at all, the clock amounts to some patience. -/
theorem exists_standsFor (h : (stops granted o).Nonempty) : ∃ patience, StandsFor patience granted o := by
  obtain ⟨n, stop, least⟩ := exists_first_stop h
  refine ⟨n, fun k before => ?_, fun pending => stop.resolve_left (pending n (Nat.le_refl n))⟩
  refine Bool.eq_true_of_not_eq_false fun refused => ?_
  exact Nat.not_le_of_lt before (least (.inr refused))

/-- A search with a patience stops, at the latest when it is used up. -/
theorem StandsFor.stop_le (stands : StandsFor patience granted o) (first : IsLeast (stops granted o) n) :
    n ≤ patience := by
  by_cases pending : ∀ k ≤ patience, ¬ Ends Error.isPending (o k)
  · exact first.2 (.inr (stands.refuses pending))
  · simp only [not_forall, not_not] at pending
    obtain ⟨k, inTime, ends⟩ := pending
    exact Nat.le_trans (first.2 (.inl ends)) inTime

/-- A refused delay is the first one that the patience does not count. -/
theorem StandsFor.le_of_refused (stands : StandsFor patience granted o) (refused : granted n = false) :
    patience ≤ n := by
  refine Nat.le_of_not_lt fun before => ?_
  rw [stands.grants n before] at refused
  cases refused

/-- The first stop decides what the attempts come to. -/
theorem attempts_of_stop {x : ExceptT Error (StateM σ) α} {s : σ} (gives : Gives x s o)
    (stands : StandsFor patience granted o) (first : IsLeast (stops granted o) n) (timeout : Error) :
    (Ends Error.isPending (o n) ∧
      attempts Error.isPending timeout x patience s = (o n, afterCalls x s (n + 1))) ∨
    (¬ Ends Error.isPending (o n) ∧
      attempts Error.isPending timeout x patience s = (.error timeout, afterCalls x s (n + 1))) := by
  have inTime : n ≤ patience := stands.stop_le first
  by_cases ends : Ends Error.isPending (o n)
  · have first : IsLeast {k | Ends Error.isPending (o k)} n :=
      ⟨ends, fun k h => first.2 (.inl h)⟩
    exact .inl ⟨ends, attempts_of_first gives first inTime⟩
  · -- the delay was refused, so the patience is used up
    obtain rfl : n = patience :=
      Nat.le_antisymm inTime (stands.le_of_refused (first.1.resolve_left ends))
    have passed : ∀ k ≤ n, ¬ Ends Error.isPending (o k) := by
      intro k upTo h
      obtain rfl : k = n := Nat.le_antisymm upTo (first.2 (.inl h))
      exact ends h
    exact .inr ⟨ends, attempts_of_none gives passed⟩

/-! ## Looking for a proposal -/

namespace GovernanceContract

/-- **The first stop decides what looking for a proposal comes to.** The scans may have any outcomes and the
clock may behave in any way. Unless all scans are pending and a delay is granted after every one, the clock
amounts to a patience, and with each patience that it amounts to, the search ends: there is a first scan,
counted from zero, that is not pending or not followed by a delay, and it is the last one, made after as many
others as its number says. If it is not pending, its outcome is the one of the search; if it is, the time is
up. So no search ends with what is only pending. -/
theorem resolve_first_stop (contract : GovernanceContract (StateM σ)) (options : ScanOptions)
    (key : CorrelationKey) {s : σ} {o : Nat → Except Error UInt64}
    (gives : Gives (contract.scan options key) s o) {granted : Nat → Bool}
    (comesToEnd : ∃ k, Ends Error.isPending (o k) ∨ granted k = false) :
    (∃ patience, StandsFor patience granted o) ∧
    ∀ patience, StandsFor patience granted o →
      ∃ n outcome t, IsLeast {k | Ends Error.isPending (o k) ∨ granted k = false} n ∧
        contract.resolve options patience key s = (outcome, t) ∧
        pollUntil (counted (contract.scan options key)) options.timeout patience (s, 0) =
          (outcome, (t, n + 1)) ∧
        (Ends Error.isPending (o n) → outcome = o n) ∧
        (¬ Ends Error.isPending (o n) → outcome = .error (.correlationTimeout options.timeout)) ∧
        ∀ e, outcome = .error e → e.isPending = false := by
  refine ⟨exists_standsFor comesToEnd, fun patience stands => ?_⟩
  obtain ⟨n, first⟩ := exists_first_stop comesToEnd
  have plain := attempts_of_stop gives stands first (.correlationTimeout options.timeout)
  have withCount :=
    attempts_of_stop (gives.counted 0) stands first (.correlationTimeout options.timeout)
  rw [afterCalls_counted, Nat.zero_add] at withCount
  rcases plain with ⟨ends, run⟩ | ⟨pending, run⟩
  · have counts := (withCount.resolve_right fun h => h.1 ends).2
    exact ⟨n, o n, _, first, run, counts, fun _ => rfl, fun h => absurd ends h, ends⟩
  · have counts := (withCount.resolve_left fun h => pending h.1).2
    refine ⟨n, _, _, first, run, counts, fun h => absurd h pending, fun _ => rfl, ?_⟩
    intro e same
    cases same
    rfl

/-- Nothing is listed at the first scan. A delay is granted, the proposal is listed at the second, and no third
is made, however many delays the clock would still grant. -/
theorem resolve_at_second_scan :
    let contract := ledger fun ps => if ps = [] then [⟨"", .mintRoot 7⟩] else []
    let key := CorrelationKey.forKind 0 (.mintRoot 7) default .epoch
    (contract.scan .default key []).1 = .error (.emptyWindow 0) ∧
      ∃ t, contract.resolve .default 5 key [] = (.ok 0, t) ∧
        pollUntil (counted (contract.scan .default key)) ScanOptions.default.timeout 5 ([], 0) =
          (.ok 0, (t, 2)) := by
  intro contract key
  have first : (contract.scan .default key []).1 = .error (.emptyWindow 0) := by decide +kernel
  have second : (contract.scan .default key (contract.scan .default key []).2).1 = .ok 0 := by
    decide +kernel
  have gives : Gives (contract.scan .default key) [] fun k =>
      (contract.scan .default key (afterCalls (contract.scan .default key) [] k)).1 := fun _ => rfl
  have ends : Ends Error.isPending
      (contract.scan .default key (afterCalls (contract.scan .default key) [] 1)).1 := by
    rw [afterCalls_succ, afterCalls_zero, second]
    exact ends_ok _ _
  have stands : StandsFor 5 (fun _ => true) fun k =>
      (contract.scan .default key (afterCalls (contract.scan .default key) [] k)).1 :=
    ⟨fun _ _ => rfl, fun pending => absurd ends (pending 1 (by decide))⟩
  obtain ⟨n, outcome, t, least, run, counts, found, -⟩ :=
    (resolve_first_stop contract .default key gives ⟨1, .inl ends⟩).2 5 stands
  have notFirst : n ≠ 0 := by
    rintro rfl
    have := least.1.resolve_right nofun _ first
    cases this
  obtain rfl : n = 1 := by
    have := least.2 (.inl ends)
    omega
  obtain rfl : outcome = .ok 0 := (found ends).trans second
  exact ⟨first, t, run, counts⟩

end GovernanceContract

end Governance
