import Governance.Revenue

/-!
# Calls of contracts

A call that changes a contract is signed elsewhere, by whoever holds the keys. What goes to the signer is a
`FunctionCall`; what comes back once the signed transaction is committed is a `TransactionOutcome`.
-/

namespace Governance

open Json

/-- A call of a contract method, to be signed. -/
structure FunctionCall where
  /-- The contract that is called. -/
  receiverId : String
  methodName : String
  args : Value
  /-- The gas attached. -/
  gas : UInt64
  /-- The deposit attached. -/
  deposit : Amount
  deriving DecidableEq

namespace FunctionCall

/-- The document of a call. -/
def toDocument (call : FunctionCall) : Document :=
  .record [
    ("receiver_id", .text call.receiverId),
    ("method_name", .text call.methodName),
    ("args", call.args.toDocument),
    ("gas", .nat call.gas.toNat),
    ("deposit", call.deposit.toDocument)]

/-- Reads a call. -/
def ofDocument? : Decoder FunctionCall := fun depth d => do
  let r ← Decoder.record ["receiver_id", "method_name", "args", "gas", "deposit"] depth d
  return {
    receiverId := ← r.required "receiver_id" Decoder.string
    methodName := ← r.required "method_name" Decoder.string
    args := ← r.required "args" Decoder.value
    gas := ← r.required "gas" Decoder.uint64
    deposit := ← r.required "deposit" Amount.ofDocument? }

end FunctionCall

/-- The outcome of a committed transaction. -/
structure TransactionOutcome where
  transactionHash : String
  /-- What the call returned, `null` if nothing. -/
  returnValue : Value
  deriving DecidableEq

namespace TransactionOutcome

/-- The document of an outcome. -/
def toDocument (outcome : TransactionOutcome) : Document :=
  .record [
    ("transaction_hash", .text outcome.transactionHash),
    ("return_value", outcome.returnValue.toDocument)]

/-- Reads an outcome. -/
def ofDocument? : Decoder TransactionOutcome := fun depth d => do
  let r ← Decoder.record ["transaction_hash", "return_value"] depth d
  return {
    transactionHash := ← r.required "transaction_hash" Decoder.string
    returnValue := ← r.required "return_value" Decoder.value }

end TransactionOutcome

end Governance
