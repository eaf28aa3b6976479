import Governance.Contract
import Governance.Correlation.Key

/-!
# Scanning for a proposal

A submitted proposal is looked for in the contract's list, page by page. The scan begins a little before the
baseline of the key, and ends at the first page with a match, at a page that is not full, since the list
ends there, or when as many pages were read as are allowed.
-/

namespace Governance

/-- What to do when several proposals on a page match. -/
inductive Ambiguity
  /-- Take the first in the order of the page. -/
  | takeFirst
  /-- Refuse to choose. -/
  | reject
  deriving DecidableEq, Repr, Inhabited

/-- How proposals are looked for. -/
structure ScanOptions where
  /-- How many IDs before the baseline the scan begins. -/
  window : UInt64
  /-- How many proposals are asked for at a time. -/
  pageSize : UInt64
  /-- How many pages one scan may read. -/
  maxPages : Nat
  /-- The first delay between scans, in milliseconds. -/
  pollInterval : UInt64
  /-- How long scanning may go on, in seconds. -/
  timeout : UInt64
  ambiguity : Ambiguity
  deriving DecidableEq, Repr

namespace ScanOptions

/-- Two IDs before the baseline, five pages of ten, again after a second, for a minute. -/
def default : ScanOptions :=
  ⟨2, 10, 5, 1000, 60, .takeFirst⟩

instance : Inhabited ScanOptions := ⟨default⟩

end ScanOptions

/-- The first ID to look at. -/
def scanStart (baseline window : UInt64) : UInt64 :=
  if window ≤ baseline then baseline - window else 0

/-- The scan begins as many IDs before the baseline as the window says, or with the first ID. -/
theorem scanStart_toNat (baseline window : UInt64) :
    (scanStart baseline window).toNat = baseline.toNat - window.toNat := by
  unfold scanStart
  split
  · next le => exact UInt64.toNat_sub_of_le _ _ le
  · next gt =>
    rw [UInt64.le_iff_toNat_le] at gt
    rw [Nat.sub_eq_zero_of_le (Nat.le_of_not_le gt)]
    rfl

/-- The next index, as far as 64 bits go. -/
def nextIndex (index pageSize : UInt64) : UInt64 :=
  if index.toNat + pageSize.toNat < UInt64.size then index + pageSize
  else UInt64.ofNat (UInt64.size - 1)

theorem nextIndex_toNat (index pageSize : UInt64) :
    (nextIndex index pageSize).toNat = min (index.toNat + pageSize.toNat) (UInt64.size - 1) := by
  unfold nextIndex
  split
  · next fits =>
    rw [UInt64.toNat_add, Nat.mod_eq_of_lt fits, Nat.min_eq_left (by omega)]
  · next past =>
    rw [Nat.min_eq_right (by omega)]
    rfl

/-! ## One page -/

namespace CorrelationKey

/-- The IDs of the proposals on a page that match, in the order of the page. -/
def findMatches (key : CorrelationKey) (page : List Proposal) : List UInt64 :=
  (page.filter key.accepts).map Proposal.id

/-- The proposal meant by several IDs that match. -/
def pick (ambiguity : Ambiguity) : List UInt64 → Except Error UInt64
  | [] => .error (.invalidResponse .noCandidate)
  | [id] => .ok id
  | id :: ids =>
    match ambiguity with
    | .takeFirst => .ok id
    | .reject => .error (.ambiguousMatch (id :: ids))

/-- Looks for the proposal on one page that begins at the given index. -/
def matchPage (key : CorrelationKey) (page : List Proposal) (fromIndex : UInt64)
    (ambiguity : Ambiguity) : Except Error UInt64 :=
  if page.isEmpty then .error (.emptyWindow fromIndex)
  else
    match key.findMatches page with
    | [] => .error (.notFound key.expectedKind.name page.length)
    | ids => pick ambiguity ids

end CorrelationKey

/-! ## Many pages -/

namespace GovernanceContract

variable {m : Type → Type} [Monad m]

/-- Reads the first page only. -/
def correlateOnce (contract : GovernanceContract m) (options : ScanOptions) (key : CorrelationKey) :
    ExceptT Error m UInt64 := do
  let start := scanStart key.baseline options.window
  let page ← contract.listProposals start options.pageSize
  liftExcept (key.matchPage page start options.ambiguity)

/-- What a page of the scan decides, given how many proposals were read before it; nothing if the next
page has to be read. -/
def verdict (options : ScanOptions) (key : CorrelationKey) (start : UInt64) (isFirst : Bool)
    (scanned : Nat) (page : List Proposal) : Option (Except Error UInt64) :=
  if page.isEmpty && isFirst then some (.error (.emptyWindow start))
  else
    match key.findMatches page with
    | [] =>
      if page.length < options.pageSize.toNat then
        some (.error (.notFound key.expectedKind.name (scanned + page.length)))
      else none
    | ids => some (CorrelationKey.pick options.ambiguity ids)

/-- Reads up to `pages` further pages from an index. -/
def scanPages (contract : GovernanceContract m) (options : ScanOptions) (key : CorrelationKey)
    (start : UInt64) : (pages : Nat) → (isFirst : Bool) → (index : UInt64) → (scanned : Nat) →
    ExceptT Error m UInt64
  | 0, _, _, _ => throw (.windowExhausted start options.maxPages)
  | pages + 1, isFirst, index, scanned => do
    let page ← contract.listProposals index options.pageSize
    match verdict options key start isFirst scanned page with
    | some outcome => liftExcept outcome
    | none =>
      scanPages contract options key start pages false (nextIndex index options.pageSize)
        (scanned + page.length)

/-- Looks for the proposal of a key. -/
def scan (contract : GovernanceContract m) (options : ScanOptions) (key : CorrelationKey) :
    ExceptT Error m UInt64 :=
  let start := scanStart key.baseline options.window
  scanPages contract options key start options.maxPages true start 0

end GovernanceContract

end Governance
