import Governance.Attempts
import Governance.Text.Blank
import Governance.Text.Decimal

/-!
# Second attempts

An operation that failed may be tried again, a limited number of times. Whether it is worth while depends on
the error: a broken connection, a limit on the rate, an answer that makes no sense, a gateway that
fails and a node that timed out may be gone at the next attempt; what a contract or a check refuses
stays refused.
-/

namespace Governance

open Text

/-! ## Which errors may go away -/

/-- Reads the three bytes of a status code, which has to fit 16 bits. -/
def statusOf (cs : List Char) : Option Nat :=
  if (cs.take 3).all (fun c => c.val < 128) ∧ (cs.take 3).length = 3 then
    readBelow UInt16.size (cs.take 3)
  else none

/-- What follows the first colon with a blank behind it. -/
def afterColon : List Char → Option (List Char)
  | ':' :: ' ' :: cs => some cs
  | _ :: cs => afterColon cs
  | [] => none

/-- Takes a beginning away. -/
def afterStart : List Char → List Char → Option (List Char)
  | [], cs => some cs
  | p :: ps, c :: cs => if p = c then afterStart ps cs else none
  | _ :: _, [] => none

/-- Whether the words of an endpoint tell of a passing trouble: a failing gateway, by its status code, or
a node that timed out, by the name of the cause. -/
def isTransientRpc (text : String) : Bool :=
  match afterStart "HTTP ".toList text.toList with
  | some rest => (statusOf rest).any fun code => [500, 502, 503, 504].contains code
  | none => (afterColon text.toList).any fun rest => firstWord rest = "TIMEOUT_ERROR".toList

/-- Whether another attempt may succeed. -/
def Error.isRetryable : Error → Bool
  | network | rateLimitExceeded _ | invalidResponse _ => true
  | rpc text => isTransientRpc text
  | _ => false

/-! ## Attempts -/

variable {m : Type → Type} [Monad m]

/-- Tries an operation, and again at most `retries` times after errors that `shouldRetry` admits. -/
def retryWhen (shouldRetry : Error → Bool) (retries : Nat) (operation : ExceptT Error m α) :
    ExceptT Error m α :=
  attempts shouldRetry (.maxRetriesExceeded retries) operation retries

/-- Tries an operation, and again at most `retries` times after errors that may go away. -/
def retry (retries : Nat) (operation : ExceptT Error m α) : ExceptT Error m α :=
  retryWhen Error.isRetryable retries operation

/-- What is remembered of attempts that failed. -/
structure RetryLog where
  attempts : Nat
  /-- The words of the last error. -/
  lastError : String
  /-- The time spent waiting, in milliseconds. -/
  waited : UInt64
  deriving DecidableEq, Repr

namespace RetryLog

/-- No attempt failed so far. -/
def empty : RetryLog :=
  ⟨0, "", 0⟩

instance : Inhabited RetryLog := ⟨empty⟩

/-- One more attempt failed and was followed by a delay. -/
def record (log : RetryLog) (error : String) (delay : UInt64) : RetryLog :=
  ⟨log.attempts + 1, error, log.waited + delay⟩

end RetryLog

end Governance
