import Governance.Correlation.Polling
import Governance.Duration
import Governance.FileContent
import Governance.Url

/-!
# Configuration

Where the governance contract is reached and how patiently. A configuration is made for a network, changed
field by field, and checked before it is used; the first fault in the order of the checks is the one
reported.
-/

namespace Governance

open Json

/-- A network. -/
inductive Network
  | testnet
  | mainnet
  /-- An endpoint of one's own. -/
  | custom
  deriving DecidableEq, Repr, Inhabited

namespace Network

/-- The name of a network in JSON. -/
def name : Network → String
  | testnet => "Testnet"
  | mainnet => "Mainnet"
  | custom => "Custom"

/-- The name of a network that wallets use. -/
def networkId : Network → String
  | testnet => "testnet"
  | mainnet => "mainnet"
  | custom => "custom"

/-- The public endpoint of a network. -/
def defaultRpcUrl : Network → String
  | testnet => "https://rpc.testnet.near.org"
  | mainnet => "https://rpc.mainnet.near.org"
  | custom => ""

/-- The networks by their names. -/
def named : List (String × Network) :=
  [testnet, mainnet, custom].map fun n => (n.name, n)

/-- The document of a network. -/
def toDocument (network : Network) : Document :=
  .text network.name

/-- Reads a network. -/
def ofDocument? : Decoder Network :=
  Decoder.oneOf named

end Network

/-- The configuration of a client. -/
structure Config where
  network : Network
  /-- The endpoint. -/
  rpcUrl : String
  /-- The account of the governance contract. -/
  contractId : String
  /-- How long a request may take. -/
  requestTimeout : Duration
  /-- How often a failed request is repeated. -/
  maxRetries : UInt64
  /-- The first delay before a repetition, in milliseconds. -/
  retryInitialDelay : UInt64
  /-- The longest delay before a repetition, in milliseconds. -/
  retryMaxDelay : UInt64
  /-- By how much each delay is longer than the one before. -/
  retryMultiplier : Double
  /-- The first delay between scans, in milliseconds. -/
  pollInterval : UInt64
  /-- How long a proposal is looked for, in seconds. -/
  correlationTimeout : UInt64
  /-- How many IDs before the baseline a scan begins. -/
  scanWindow : UInt64
  /-- How many proposals are asked for at a time. -/
  pageSize : UInt64
  /-- How many pages one scan may read. -/
  maxScanPages : UInt64
  /-- The gas attached to a submission. -/
  proposalGas : UInt64
  /-- The gas attached to a vote. -/
  voteGas : UInt64
  /-- The gas attached to a purchase. -/
  buyGas : UInt64
  deriving DecidableEq

namespace Config

/-- The configuration for a network, with everything else as usual. -/
def ofNetwork (network : Network) (contractId : String) : Config where
  network := network
  rpcUrl := network.defaultRpcUrl
  contractId := contractId
  requestTimeout := .ofSecs 30
  maxRetries := 3
  retryInitialDelay := 100
  retryMaxDelay := 5000
  retryMultiplier := ⟨false, Double.leadingBit, -51⟩
  pollInterval := 1000
  correlationTimeout := 60
  scanWindow := 2
  pageSize := 10
  maxScanPages := 5
  proposalGas := 100000000000000
  voteGas := 250000000000000
  buyGas := 300000000000000

/-- The configuration for an endpoint of one's own. -/
def custom (rpcUrl contractId : String) : Except Error Config :=
  if rpcUrl.isEmpty then .error (.config .emptyRpcUrl)
  else if contractId.isEmpty then .error (.config .emptyContract)
  else .ok { ofNetwork .custom contractId with rpcUrl := rpcUrl }

/-- The checks in their order: what is refused, and for what reason. -/
def faults (c : Config) : List (Bool × ConfigFault) :=
  [(c.contractId.isEmpty, .emptyContract),
    (c.maxRetries == 0, .noRetries),
    (c.retryInitialDelay == 0, .noRetryDelay),
    (!c.retryMultiplier.exceedsOne, .retryMultiplier),
    (c.pollInterval == 0, .noPollInterval),
    (c.correlationTimeout == 0, .noTimeout),
    (c.pageSize == 0 || c.maxScanPages == 0, .emptyScan),
    (c.proposalGas == 0 || c.voteGas == 0 || c.buyGas == 0, .noGas)]

/-- Refuses a configuration that cannot work. -/
def validate (c : Config) : Except Error Unit := do
  if c.rpcUrl.isEmpty then throw (.config .emptyRpcUrl)
  (Url.check c.rpcUrl).mapError .url
  match c.faults.find? Prod.fst with
  | some (_, fault) => throw (.config fault)
  | none => return

/-- How proposals are looked for. -/
def scanOptions (c : Config) : ScanOptions :=
  ⟨c.scanWindow, c.pageSize, c.maxScanPages.toNat, c.pollInterval, c.correlationTimeout, .takeFirst⟩

/-! ## JSON -/

/-- The names of the fields, in order. -/
def fields : List String :=
  ["network", "rpc_url", "dao_contract_id", "request_timeout", "max_retries", "retry_initial_delay_ms",
    "retry_max_delay_ms", "retry_multiplier", "correlation_poll_interval_ms",
    "correlation_timeout_secs", "scan_window", "page_size", "max_scan_pages", "proposal_gas",
    "vote_gas", "buy_gas"]

/-- The document of a configuration. -/
def toDocument (c : Config) : Document :=
  .record [
    ("network", c.network.toDocument),
    ("rpc_url", .text c.rpcUrl),
    ("dao_contract_id", .text c.contractId),
    ("request_timeout", c.requestTimeout.toDocument),
    ("max_retries", .nat c.maxRetries.toNat),
    ("retry_initial_delay_ms", .nat c.retryInitialDelay.toNat),
    ("retry_max_delay_ms", .nat c.retryMaxDelay.toNat),
    ("retry_multiplier", .number (Number.double c.retryMultiplier).toNumeral),
    ("correlation_poll_interval_ms", .nat c.pollInterval.toNat),
    ("correlation_timeout_secs", .nat c.correlationTimeout.toNat),
    ("scan_window", .nat c.scanWindow.toNat),
    ("page_size", .nat c.pageSize.toNat),
    ("max_scan_pages", .nat c.maxScanPages.toNat),
    ("proposal_gas", .nat c.proposalGas.toNat),
    ("vote_gas", .nat c.voteGas.toNat),
    ("buy_gas", .nat c.buyGas.toNat)]

/-- Reads a configuration. -/
def ofDocument? : Decoder Config := fun depth d => do
  let r ← Decoder.record fields depth d
  return {
    network := ← r.required "network" Network.ofDocument?
    rpcUrl := ← r.required "rpc_url" Decoder.string
    contractId := ← r.required "dao_contract_id" Decoder.string
    requestTimeout := ← r.required "request_timeout" Duration.ofDocument?
    maxRetries := ← r.required "max_retries" Decoder.uint64
    retryInitialDelay := ← r.required "retry_initial_delay_ms" Decoder.uint64
    retryMaxDelay := ← r.required "retry_max_delay_ms" Decoder.uint64
    retryMultiplier := ← r.required "retry_multiplier" Decoder.double
    pollInterval := ← r.required "correlation_poll_interval_ms" Decoder.uint64
    correlationTimeout := ← r.required "correlation_timeout_secs" Decoder.uint64
    scanWindow := ← r.required "scan_window" Decoder.uint64
    pageSize := ← r.required "page_size" Decoder.uint64
    maxScanPages := ← r.required "max_scan_pages" Decoder.uint64
    proposalGas := ← r.required "proposal_gas" Decoder.uint64
    voteGas := ← r.required "vote_gas" Decoder.uint64
    buyGas := ← r.required "buy_gas" Decoder.uint64 }

/-! ## Project files -/

/-- The contract that a project file names. -/
def contractOfProject? (text : String) : Option String :=
  Decoder.ofText? (fun depth d => do
    let r ← Decoder.record ["contractName"] depth d
    r.required "contractName" Decoder.string) text

/-- The configuration for the contract that the project file at a path names. -/
def ofProjectFile (network : Network) (path : String) (file : FileContent) : Except Error Config :=
  match file.readText with
  | .error fault => .error (.config (.unreadable path fault.message))
  | .ok text =>
    match contractOfProject? text with
    | none => .error .serialization
    | some contractId =>
      let config := ofNetwork network contractId
      config.validate.map fun _ => config

end Config

end Governance
