import Governance.Attempts

/-!
# Runs

An action that may fail and that works on a state is a function from states to an outcome and a state. What a
composite action comes to is read off its first step: if that step succeeds the rest goes on from the state it
left (`run_bind_ok`), and if it fails nothing else happens (`run_bind_error`). No lemma on a particular
action has to look inside the monad. The other way round, an action that succeeded did so step by step
(`run_bind_eq_ok`), and attempts come to what the last one of them comes to (`attempts_last`).
-/

namespace Governance

variable {σ α β : Type} {x : ExceptT Error (StateM σ) α} {f : α → ExceptT Error (StateM σ) β} {s t : σ}

/-- After a step that succeeds the rest goes on from the state that the step left. -/
theorem run_bind_ok {a : α} (h : x s = (.ok a, t)) : (x >>= f) s = f a t := by
  simp only [bind, ExceptT.bind, ExceptT.mk, StateT.bind, h]
  rfl

/-- A step that fails is the last one. -/
theorem run_bind_error {e : Error} (h : x s = (.error e, t)) : (x >>= f) s = (.error e, t) := by
  simp only [bind, ExceptT.bind, ExceptT.mk, StateT.bind, h]
  rfl

/-- If all succeeded, so did the first step, and then the rest. -/
theorem run_bind_eq_ok {b : β} {u : σ} (h : (x >>= f) s = (.ok b, u)) :
    ∃ a t, x s = (.ok a, t) ∧ f a t = (.ok b, u) := by
  rcases first : x s with ⟨outcome, t⟩
  cases outcome with
  | ok a =>
    rw [run_bind_ok first] at h
    exact ⟨a, t, rfl, h⟩
  | error e =>
    rw [run_bind_error first] at h
    cases h

@[simp] theorem run_pure (a : α) : (pure a : ExceptT Error (StateM σ) α) s = (.ok a, s) := rfl

/-- An outcome that is at hand changes nothing. -/
@[simp] theorem run_liftExcept (r : Except Error α) :
    (liftExcept r : ExceptT Error (StateM σ) α) s = (r, s) := by
  cases r <;> rfl

/-- An action whose failure is looked at does not fail itself. -/
theorem run_lift (y : StateM σ α) :
    (ExceptT.lift y : ExceptT Error (StateM σ) α) s = (.ok (y s).1, (y s).2) := rfl

section

variable {admits : Error → Bool} {exhausted : Error}

/-- An outcome that is not worth another attempt is the outcome of the attempts. -/
theorem attempts_decided (decided : ∀ e, (x s).1 = .error e → admits e = false) (left : Nat) :
    attempts admits exhausted x left s = x s := by
  rcases run : x s with ⟨outcome, t⟩
  cases outcome with
  | ok a => exact attempts_run_ok run left
  | error e => exact attempts_run_refused run (decided e (by rw [run])) left

/-- An outcome is worth another attempt or not. -/
theorem decided_or_admitted (x : ExceptT Error (StateM σ) α) (admits : Error → Bool) (s : σ) :
    (∀ e, (x s).1 = .error e → admits e = false) ∨
      ∃ e, x s = (.error e, (x s).2) ∧ admits e = true := by
  rcases run : x s with ⟨outcome, t⟩
  cases outcome with
  | ok a => exact .inl nofun
  | error e =>
    cases admitted : admits e with
    | false => exact .inl fun _ same => by cases same; exact admitted
    | true => exact .inr ⟨e, rfl, admitted⟩

/-- The last attempt leaves what all of them leave. Its outcome is theirs, unless it is an error that is worth
another attempt: then they are exhausted. What every attempt preserves still holds before the last one. -/
theorem attempts_last {I : σ → Prop} (keeps : ∀ s, I s → I (x s).2) (left : Nat) (h : I s) :
    ∃ u, I u ∧ (attempts admits exhausted x left s).2 = (x u).2 ∧
      (((attempts admits exhausted x left s).1 = (x u).1 ∧
          ∀ e, (x u).1 = .error e → admits e = false) ∨
        ((attempts admits exhausted x left s).1 = .error exhausted ∧
          ∃ e, (x u).1 = .error e ∧ admits e = true)) := by
  induction left generalizing s with
  | zero =>
    refine ⟨s, h, ?_⟩
    rcases decided_or_admitted x admits s with decided | ⟨e, run, admitted⟩
    · rw [attempts_decided decided]
      exact ⟨rfl, .inl ⟨rfl, decided⟩⟩
    · rw [attempts_run_exhausted run admitted]
      exact ⟨rfl, .inr ⟨rfl, e, by rw [run], admitted⟩⟩
  | succ left ih =>
    rcases decided_or_admitted x admits s with decided | ⟨e, run, admitted⟩
    · refine ⟨s, h, ?_⟩
      rw [attempts_decided decided]
      exact ⟨rfl, .inl ⟨rfl, decided⟩⟩
    · rw [attempts_run_again run admitted]
      exact ih (keeps s h)

end

end Governance
