import Governance.Text.Base64
import Governance.Text.Quoted
import Governance.Url.Host

/-!
# Errors

Everything that can go wrong, by cause. The words for an error are one function, `Error.message`; what
the layers below report in words of their own (a broken connection, a text that does not decode) has
no words here. Two classes matter to the callers: errors that mean "not listed yet, look again"
(`Error.isPending`), and errors that a second attempt may not meet (`Governance.Retry`).
-/

namespace Governance

/-- Why an argument is refused before anything is sent. -/
inductive InputFault
  | account (field id : String)
  | blank (field : String)
  | amount (text : String)
  | amountDecimals (text : String)
  | tableSize (entries : Nat)
  | tableTotal
  | noTreeIndex
  | incompleteNft (id : UInt64)
  | blankRootId
  | freePrice
  | unlisted (contract rootId : String)
  | needsSigner (method : String)
  /-- A refusal in other words, by a contract or a signer. -/
  | stated (text : String)
  deriving DecidableEq, Repr

/-- Why an answer makes no sense. -/
inductive ResponseFault
  | undecodable
  | missingResult
  | missingBytes (method : String)
  | missingHash
  /-- The outcome of a transaction is neither success nor failure; its status as JSON text. -/
  | status (json : String)
  | price (text : String)
  | noCandidate
  | stated (text : String)
  deriving DecidableEq, Repr

/-- Why a configuration is refused. -/
inductive ConfigFault
  | emptyRpcUrl
  | emptyContract
  | noRetries
  | noRetryDelay
  | retryMultiplier
  | noPollInterval
  | noTimeout
  | emptyScan
  | noGas
  /-- A project file that cannot be read, with the reason. -/
  | unreadable (path reason : String)
  | stated (text : String)
  deriving DecidableEq, Repr

/-- Why the session store fails. -/
inductive SessionFault
  | notProposalId (name raw : String)
  /-- The file system refuses, for the stated reason. -/
  | stated (text : String)
  deriving DecidableEq, Repr

/-- Everything that can go wrong. -/
inductive Error
  | rpc (text : String)
  | network
  | contractExecution (method text : String)
  | invalidResponse (fault : ResponseFault)
  | rateLimitExceeded (seconds : UInt64)
  | maxRetriesExceeded (retries : Nat)
  | emptyWindow (fromIndex : UInt64)
  | notFound (kind : String) (scanned : Nat)
  | ambiguousMatch (ids : List UInt64)
  | windowExhausted (fromIndex : UInt64) (pages : Nat)
  | correlationTimeout (seconds : UInt64)
  | noPendingCorrelation
  | invalidInput (fault : InputFault)
  | serialization
  | config (fault : ConfigFault)
  | session (fault : SessionFault)
  | base64 (fault : Text.Base64.Fault)
  | url (fault : Url.Fault)
  deriving DecidableEq, Repr

open Text (quoted)

/-- The words for a refused argument. -/
def InputFault.message : InputFault → String
  | account field id => s!"{field} is not a valid account ID: {quoted id}"
  | blank field => s!"{field} cannot be empty"
  | amount text => s!"Invalid NEAR amount: {quoted text}"
  | amountDecimals text => s!"NEAR amount {quoted text} has more than 24 decimals"
  | tableSize entries => s!"Revenue table has {entries} entries, limit is 15"
  | tableTotal => "Revenue table shares must add up to 10000 basis points"
  | noTreeIndex => "Payout needs at least one tree index"
  | incompleteNft id => s!"In-progress NFT {id} is missing data required for minting"
  | blankRootId => "root ID must not be empty"
  | freePrice => "NFT price must be greater than 0"
  | unlisted contract rootId => s!"{contract}-{rootId} has no sale price"
  | needsSigner method => s!"{method} requires a signing account"
  | stated text => text

/-- The words for an answer that makes no sense. -/
def ResponseFault.message : ResponseFault → String
  | undecodable => "error decoding response body"
  | missingResult => "Missing result in response"
  | missingBytes method => s!"Missing result bytes in {method} response"
  | missingHash => "Missing transaction hash"
  | status json => s!"Unexpected transaction status: {json}"
  | price text => s!"Invalid price: {quoted text}"
  | noCandidate => "No candidate proposal to pick"
  | stated text => text

/-- The words for a refused configuration. -/
def ConfigFault.message : ConfigFault → String
  | emptyRpcUrl => "RPC URL cannot be empty"
  | emptyContract => "DAO contract ID cannot be empty"
  | noRetries => "Max retries must be greater than 0"
  | noRetryDelay => "Retry initial delay must be greater than 0"
  | retryMultiplier => "Retry multiplier must be greater than 1.0"
  | noPollInterval => "Correlation poll interval must be greater than 0"
  | noTimeout => "Correlation timeout must be greater than 0"
  | emptyScan => "Page size and max scan pages must be greater than 0"
  | noGas => "Attached gas must be greater than 0"
  | unreadable path reason => s!"Cannot read {path}: {reason}"
  | stated text => text

/-- The words for a failing session store. -/
def SessionFault.message : SessionFault → String
  | notProposalId name raw => s!"{name} is not a proposal ID: {quoted raw}"
  | stated text => text

/-- Ids between brackets. -/
def listIds (ids : List UInt64) : String :=
  "[" ++ ", ".intercalate (ids.map fun id => toString id.toNat) ++ "]"

/-- The words for an error; none where a layer below has its own. -/
def Error.message : Error → Option String
  | rpc text => some s!"RPC error: {text}"
  | network => none
  | contractExecution method text => some s!"Contract execution failed in {method}: {text}"
  | invalidResponse fault => some s!"Invalid response: {fault.message}"
  | rateLimitExceeded seconds => some s!"Rate limit exceeded, retry after {seconds} seconds"
  | maxRetriesExceeded retries => some s!"Max retries ({retries}) exceeded"
  | emptyWindow fromIndex => some s!"No proposals returned from index {fromIndex}"
  | notFound kind scanned =>
    some s!"No in-progress {kind} proposal matched in {scanned} scanned proposals"
  | ambiguousMatch ids => some s!"Ambiguous match, candidate proposals: {listIds ids}"
  | windowExhausted fromIndex pages =>
    some s!"Scan window exhausted after {pages} pages from index {fromIndex}"
  | correlationTimeout seconds => some s!"Correlation timed out after {seconds} seconds"
  | noPendingCorrelation => some "No pending correlation in session"
  | invalidInput fault => some s!"Invalid input: {fault.message}"
  | serialization => none
  | config fault => some s!"Invalid configuration: {fault.message}"
  | session fault => some s!"Session store error: {fault.message}"
  | base64 fault => some s!"Base64 decode error: {fault.message}"
  | url fault => some s!"URL parse error: {fault.message}"

/-- Whether the error only says that the proposal has not been listed yet. -/
def Error.isPending : Error → Bool
  | emptyWindow _ | notFound _ _ | windowExhausted _ _ => true
  | _ => false

end Governance
