import Governance.Error

/-!
# Repeated attempts

An operation that failed is tried again, a limited number of times and only after errors that are worth
another attempt; when all attempts are used up, an error of its own says so. Retrying a request and looking
again for a proposal are both of this form. Main statements: what an attempt comes to decides what the
attempts come to (`attempts_run_ok`, `attempts_run_refused`, `attempts_run_again`,
`attempts_run_exhausted`).
-/

namespace Governance

variable {m : Type → Type} [Monad m]

/-- Tries an operation, and again after every error that `admits` lets pass, at most as many more times as
are left; after the last one such an error becomes `exhausted`. -/
def attempts (admits : Error → Bool) (exhausted : Error) (operation : ExceptT Error m α) :
    (left : Nat) → ExceptT Error m α
  | 0 => ExceptT.tryCatch operation fun e => throw (if admits e then exhausted else e)
  | left + 1 => ExceptT.tryCatch operation fun e =>
    if admits e then attempts admits exhausted operation left else throw e

/-! ## One attempt in a pure setting -/

section

variable {σ : Type} {admits : Error → Bool} {exhausted : Error}
  {operation : ExceptT Error (StateM σ) α} {s t : σ}

theorem tryCatch_ok {handle : Error → ExceptT Error (StateM σ) α} {a : α}
    (h : operation s = (.ok a, t)) : ExceptT.tryCatch operation handle s = (.ok a, t) := by
  simp only [ExceptT.tryCatch, ExceptT.mk, bind, StateT.bind, h]
  rfl

theorem tryCatch_error {handle : Error → ExceptT Error (StateM σ) α} {e : Error}
    (h : operation s = (.error e, t)) : ExceptT.tryCatch operation handle s = handle e t := by
  simp only [ExceptT.tryCatch, ExceptT.mk, bind, StateT.bind, h]

/-- A success ends the attempts. -/
theorem attempts_run_ok {a : α} (h : operation s = (.ok a, t)) (left : Nat) :
    attempts admits exhausted operation left s = (.ok a, t) := by
  cases left <;> exact tryCatch_ok h

/-- An error that is not worth another attempt ends the attempts. -/
theorem attempts_run_refused {e : Error} (h : operation s = (.error e, t)) (refused : admits e = false)
    (left : Nat) : attempts admits exhausted operation left s = (.error e, t) := by
  cases left with
  | zero =>
    rw [attempts, tryCatch_error h, refused]
    rfl
  | succ left =>
    rw [attempts, tryCatch_error h, refused]
    rfl

/-- An error that is worth another attempt leads to one, from the state it left behind. -/
theorem attempts_run_again {e : Error} (h : operation s = (.error e, t)) (admitted : admits e = true)
    (left : Nat) : attempts admits exhausted operation (left + 1) s =
      attempts admits exhausted operation left t := by
  rw [attempts, tryCatch_error h, admitted]
  rfl

/-- After the last attempt such an error becomes the one that says so. -/
theorem attempts_run_exhausted {e : Error} (h : operation s = (.error e, t))
    (admitted : admits e = true) :
    attempts admits exhausted operation 0 s = (.error exhausted, t) := by
  rw [attempts, tryCatch_error h, admitted]
  rfl

end

end Governance
