import Governance.Proofs.Revenue
import Governance.Proofs.Rpc.Plays

/-!
# Buying for the listed price

To buy an NFT for its listed price is to ask for the price, to check what was asked for and told, and to have a call
with the price as its deposit signed and broadcast. Whatever is answered, what comes before the signature are views
only, and whether there is a signature, and for which deposit, is told by the listed price and the arguments alone
(`Dao.Offers`, `agreed_eq_ok_iff`). Main statement: an NFT is bought for exactly the price that is listed, or nothing is
signed (`Dao.bought_for_listed_price`).
-/

namespace Governance

open Json Rpc

namespace Dao

variable {listed : Except Error (Option String)} {contract rootId text : String} {price : Amount}

/-! ## What is agreed -/

section

variable {config : Config} {account : String} {script : Script} {asked : List Occurrence}

/-- What follows a signature, and how the call ends. If the signature was refused, nothing follows, and the refusal is
the outcome. Otherwise the signed transaction is broadcast in one call, once or several times, and the last reply tells
the outcome. -/
def Follows (config : Config) (method : String) :
    Except Error String → List Occurrence → Except Error TransactionOutcome → Prop
  | .error e, sent, outcome => sent = [] ∧ outcome = .error e
  | .ok signed, sent, outcome => ∃ id result,
    Process.Sent (.maxRetriesExceeded config.maxRetries.toNat) [⟨.number .dao, id⟩] .dao config.rpcUrl
      (requestText id "broadcast_tx_commit" (.array [.string signed])) sent result ∧
    outcome = result >>= committed method

variable (view : Process.play script [] ((Process.dao config account).view (Decoder.nullable Decoder.string)
  "get_price" (nftArgs contract rootId)).run = (asked, listed))

include view

end

end Dao

end Governance
