import Governance.Proofs.Runs
import Governance.Retry
import Mathlib.Logic.Function.Iterate
import Mathlib.Order.Bounds.Basic

/-!
# How often an operation is tried

An operation that is called again and again goes through states (`afterCalls`) and gives a sequence of
outcomes (`Gives`); every sequence is given by some operation (`gives_scripted`). Attempts are calls of this
kind. As long as errors are worth another attempt, they go on (`attempts_passed`), and the first outcome of
another sort is theirs (`attempts_of_first`), unless all attempts are used up before it (`attempts_of_none`).
A count beside the state tells the number of calls and changes nothing else (`afterCalls_counted`). Main
statement: what retrying comes to, and after how many calls, is told by the first outcome that ends it
(`retryWhen_first_end`).
-/

namespace Governance

variable {σ α : Type} {x : ExceptT Error (StateM σ) α} {s : σ}

/-! ## Calling again and again -/

/-- The state after some calls of an operation, each made in the state that the one before it left. -/
def afterCalls (x : ExceptT Error (StateM σ) α) (s : σ) (k : Nat) : σ :=
  (fun t => (x t).2)^[k] s

@[simp] theorem afterCalls_zero : afterCalls x s 0 = s := rfl

theorem afterCalls_succ (k : Nat) : afterCalls x s (k + 1) = (x (afterCalls x s k)).2 :=
  Function.iterate_succ_apply' _ _ _

/-- The calls after the first are calls from the state that it left. -/
theorem afterCalls_next (k : Nat) : afterCalls x s (k + 1) = afterCalls x (x s).2 k := rfl

/-- Called again and again, the operation gives these outcomes, one after the other. -/
def Gives (x : ExceptT Error (StateM σ) α) (s : σ) (o : Nat → Except Error α) : Prop :=
  ∀ k, (x (afterCalls x s k)).1 = o k

/-- What a call comes to is an outcome of the sequence and the state before the next call. -/
theorem Gives.call {o : Nat → Except Error α} (gives : Gives x s o) (k : Nat) :
    x (afterCalls x s k) = (o k, afterCalls x s (k + 1)) :=
  Prod.ext (gives k) (afterCalls_succ k).symm

/-- The operation whose calls have the outcomes of a sequence. Its state is the number of calls made. -/
def scripted (o : Nat → Except Error α) : ExceptT Error (StateM Nat) α :=
  ExceptT.mk fun k => (o k, k + 1)

theorem afterCalls_scripted (o : Nat → Except Error α) (k : Nat) : afterCalls (scripted o) 0 k = k := by
  induction k with
  | zero => rfl
  | succ k ih =>
    rw [afterCalls_succ, ih]
    rfl

/-- Every sequence of outcomes is given by an operation. -/
theorem gives_scripted (o : Nat → Except Error α) : Gives (scripted o) 0 o := by
  intro k
  rw [afterCalls_scripted]
  rfl

/-! ## Counting calls -/

/-- The same operation, with a count of its calls. -/
def counted (x : ExceptT Error (StateM σ) α) : ExceptT Error (StateM (σ × Nat)) α :=
  ExceptT.mk fun (s, calls) => ((x s).1, ((x s).2, calls + 1))

theorem afterCalls_counted (calls k : Nat) :
    afterCalls (counted x) (s, calls) k = (afterCalls x s k, calls + k) := by
  induction k with
  | zero => rfl
  | succ k ih =>
    rw [afterCalls_succ, ih, afterCalls_succ]
    rfl

/-- Counting does not change the outcomes. -/
theorem Gives.counted {o : Nat → Except Error α} (gives : Gives x s o) (calls : Nat) :
    Gives (counted x) (s, calls) o := by
  intro k
  rw [afterCalls_counted]
  exact gives k

/-! ## Attempts -/

/-- The outcome is a success, or an error that is not worth another attempt. -/
def Ends (admits : Error → Bool) (outcome : Except Error α) : Prop :=
  ∀ e, outcome = .error e → admits e = false

theorem ends_ok (admits : Error → Bool) (a : α) : Ends admits (.ok a) := nofun

theorem ends_error_iff {admits : Error → Bool} {e : Error} :
    Ends admits (.error e : Except Error α) ↔ admits e = false := by
  constructor
  · intro h
    exact h e rfl
  · intro refused _ same
    cases same
    exact refused

theorem not_ends_iff {admits : Error → Bool} {outcome : Except Error α} :
    ¬ Ends admits outcome ↔ ∃ e, outcome = .error e ∧ admits e = true := by
  cases outcome with
  | ok a => simp [ends_ok]
  | error e => simp [ends_error_iff]

section

variable {admits : Error → Bool} {exhausted : Error} {o : Nat → Except Error α} {n : Nat}

/-- Outcomes that are worth another attempt lead to one each, as long as there are attempts left. -/
theorem attempts_passed (gives : Gives x s o) (passed : ∀ k < n, ¬ Ends admits (o k)) (left : Nat) :
    attempts admits exhausted x (n + left) s = attempts admits exhausted x left (afterCalls x s n) := by
  induction n generalizing left with
  | zero => rw [Nat.zero_add, afterCalls_zero]
  | succ n ih =>
    obtain ⟨e, failed, admitted⟩ := not_ends_iff.1 (passed n n.lt_succ_self)
    have call := gives.call n
    rw [failed] at call
    calc attempts admits exhausted x (n + 1 + left) s
        = attempts admits exhausted x (n + (left + 1)) s := by rw [Nat.add_assoc, Nat.add_comm 1]
      _ = attempts admits exhausted x (left + 1) (afterCalls x s n) :=
        ih (fun k before => passed k (Nat.lt_succ_of_lt before)) _
      _ = attempts admits exhausted x left (afterCalls x s (n + 1)) :=
        attempts_run_again call admitted left

/-- The first outcome that ends the attempts is theirs, if there are enough of them. -/
theorem attempts_of_first (gives : Gives x s o) (first : IsLeast {k | Ends admits (o k)} n)
    {left : Nat} (enough : n ≤ left) :
    attempts admits exhausted x left s = (o n, afterCalls x s (n + 1)) := by
  obtain ⟨more, rfl⟩ := Nat.exists_eq_add_of_le enough
  have passed : ∀ k < n, ¬ Ends admits (o k) := fun k before ends =>
    Nat.not_le_of_lt before (first.2 ends)
  have decided : ∀ e, (x (afterCalls x s n)).1 = .error e → admits e = false := by
    rw [gives n]
    exact first.1
  rw [attempts_passed gives passed, attempts_decided decided, gives.call]

/-- If no outcome ends the attempts, they are made until none is left. -/
theorem attempts_of_none (gives : Gives x s o) {left : Nat}
    (passed : ∀ k ≤ left, ¬ Ends admits (o k)) :
    attempts admits exhausted x left s = (.error exhausted, afterCalls x s (left + 1)) := by
  obtain ⟨e, failed, admitted⟩ := not_ends_iff.1 (passed left (Nat.le_refl left))
  have call := gives.call left
  rw [failed] at call
  have before : ∀ k < left, ¬ Ends admits (o k) := fun k h => passed k (Nat.le_of_lt h)
  calc attempts admits exhausted x left s
      = attempts admits exhausted x 0 (afterCalls x s left) := attempts_passed gives before 0
    _ = (.error exhausted, afterCalls x s (left + 1)) := attempts_run_exhausted call admitted

end

/-! ## Retrying -/

/-- **The first outcome that ends it decides how retrying goes.** An operation that gives any outcomes, one
after the other, is retried with any bound and any view of which errors are worth it. If an outcome that is a
success or not worth another attempt comes among the first call and the permitted retries, then the first such
outcome is the result, and no call is made after it. Otherwise all permitted calls are made, and the error
says that they were. -/
theorem retryWhen_first_end (shouldRetry : Error → Bool) (retries : Nat)
    {operation : ExceptT Error (StateM σ) α} {s : σ} {o : Nat → Except Error α}
    (gives : Gives operation s o) :
    (∀ n ≤ retries, IsLeast {k | Ends shouldRetry (o k)} n →
      ∃ t, retryWhen shouldRetry retries operation s = (o n, t) ∧
        retryWhen shouldRetry retries (counted operation) (s, 0) = (o n, (t, n + 1))) ∧
    ((∀ n ≤ retries, ¬ Ends shouldRetry (o n)) →
      ∃ t, retryWhen shouldRetry retries operation s = (.error (.maxRetriesExceeded retries), t) ∧
        retryWhen shouldRetry retries (counted operation) (s, 0) =
          (.error (.maxRetriesExceeded retries), (t, retries + 1))) := by
  constructor
  · intro n permitted first
    refine ⟨afterCalls operation s (n + 1), attempts_of_first gives first permitted, ?_⟩
    rw [retryWhen, attempts_of_first (gives.counted 0) first permitted, afterCalls_counted,
      Nat.zero_add]
  · intro none
    refine ⟨afterCalls operation s (retries + 1), attempts_of_none gives none, ?_⟩
    rw [retryWhen, attempts_of_none (gives.counted 0) none, afterCalls_counted, Nat.zero_add]

/-- A connection that breaks twice and then holds is good enough for two retries: the last permitted call
succeeds. With one retry it is not, and the call that would succeed is never made. -/
theorem retryWhen_last_permitted :
    let o : Nat → Except Error Nat := fun k => if k < 2 then .error .network else .ok 42
    (∃ t, retryWhen Error.isRetryable 2 (scripted o) 0 = (.ok 42, t) ∧
      retryWhen Error.isRetryable 2 (counted (scripted o)) (0, 0) = (.ok 42, (t, 3))) ∧
    ∃ t, retryWhen Error.isRetryable 1 (scripted o) 0 = (.error (.maxRetriesExceeded 1), t) ∧
      retryWhen Error.isRetryable 1 (counted (scripted o)) (0, 0) =
        (.error (.maxRetriesExceeded 1), (t, 2)) := by
  intro o
  have broken : ∀ k < 2, ¬ Ends Error.isRetryable (o k) := by
    intro k early
    rw [show o k = .error .network from if_pos early, ends_error_iff]
    decide
  have first : IsLeast {k | Ends Error.isRetryable (o k)} 2 :=
    ⟨ends_ok _ 42, fun k ends => Nat.le_of_not_lt fun early => broken k early ends⟩
  constructor
  · exact (retryWhen_first_end Error.isRetryable 2 (gives_scripted o)).1 2 (Nat.le_refl 2) first
  · exact (retryWhen_first_end Error.isRetryable 1 (gives_scripted o)).2 fun n permitted =>
      broken n (Nat.lt_succ_of_le permitted)

end Governance
