import Governance.Dao
import Governance.TokenMetadata
import Governance.Workflow

/-!
# The client

Everything together: the deployed contract, the minting contracts, and the workflow of proposals, over one
configuration that was checked first. The governance contract and the minting contracts are reached
through endpoints of their own, which count their calls separately.
-/

namespace Governance

open Json

variable {m : Type → Type} [Monad m]

/-- Whether a minting contract knows a token, and what it says about it. -/
def Rpc.Endpoint.nftMetadata (endpoint : Rpc.Endpoint m) (contract tokenId : String) :
    ExceptT Error m (Option TokenMetadata) := do
  let details : Decoder (Option TokenMetadata) := fun depth d => do
    let r ← Decoder.record ["metadata"] depth d
    r.withDefault "metadata" none (Decoder.nullable TokenMetadata.ofDocument?)
  let found ← endpoint.view (Decoder.list (Decoder.nullable details)) contract
    "nft_token_details_for_list" (.record [("token_list", .array [.string tokenId])])
  return found.head?.join.join

/-- A line to an endpoint: a counter for calls, and a way to send requests. -/
structure Rpc.Line (m : Type → Type) where
  /-- The ID of the next call. -/
  nextId : m UInt64
  /-- Sends the text of a request to a URL. -/
  post : (url request : String) → m Rpc.Reply

/-- The endpoint of a configuration at the end of a line. -/
def Rpc.Line.endpoint (line : Rpc.Line m) (config : Config) : Rpc.Endpoint m :=
  ⟨line.nextId, line.post config.rpcUrl, config.maxRetries.toNat⟩

/-- A client. -/
structure Client (m : Type → Type) where
  config : Config
  dao : Dao m
  /-- The endpoint for minting contracts. -/
  minting : Rpc.Endpoint m
  /-- The workflow of an operation for which so many delays are granted. -/
  workflow : (patience : Nat) → Workflow m

namespace Client

/-- The client of a configuration, which is checked first. -/
def ofConfig (config : Config) (daoLine mintingLine : Rpc.Line m) (signer : Signer m)
    (store : SessionStore m) (stamp : m (Uuid × Timestamp)) : Except Error (Client m) := do
  config.validate
  let dao : Dao m := ⟨daoLine.endpoint config, signer, config⟩
  return {
    config := config
    dao := dao
    minting := mintingLine.endpoint config
    workflow := fun patience =>
      ⟨dao.governance, store.session, config.scanOptions, patience, stamp⟩ }

end Client

end Governance
