import Governance.Attempts
import Governance.Correlation.Scan

/-!
# Looking again

The list of a contract may lag behind its submissions. A scan that finds nothing is repeated after a delay
until it succeeds, fails for another reason, or no further delay is granted because the time is up. How
many delays are granted is the patience of whoever waits. It is decided while they wait, by random delays
and by the clock, so it is an argument of everything that waits.
-/

namespace Governance

/-- Repeats a search while its answer is pending and a further delay is granted. -/
def pollUntil [Monad m] (search : ExceptT Error m α) (timeout : UInt64) (patience : Nat) :
    ExceptT Error m α :=
  attempts Error.isPending (.correlationTimeout timeout) search patience

namespace GovernanceContract

variable {m : Type → Type} [Monad m]

/-- Looks for the proposal of a key until it shows up, with the given patience. -/
def resolve (contract : GovernanceContract m) (options : ScanOptions) (patience : Nat)
    (key : CorrelationKey) : ExceptT Error m UInt64 :=
  pollUntil (contract.scan options key) options.timeout patience

end GovernanceContract

end Governance
