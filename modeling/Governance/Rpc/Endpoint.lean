import Governance.Call
import Governance.Retry
import Governance.Rpc.Reply
import Governance.Text.Base64

/-!
# Endpoints

The two calls that everything else is made of: a view, which asks a contract and changes nothing, and a
broadcast, which sends a signed transaction and waits until it is committed. Every call has an ID of its
own; the repetitions of a call share it and are the same text.
-/

namespace Governance.Rpc

open Json

/-- An endpoint. -/
structure Endpoint (m : Type → Type) where
  /-- The ID of the next call. -/
  nextId : m UInt64
  /-- Sends the text of a request. -/
  post : String → m Reply
  /-- How often a failed request is repeated. -/
  retries : Nat

/-- An ID out of a counter, which starts again after `2 ^ 64` of them. -/
def takeId : StateM UInt64 UInt64 := fun next =>
  (next, next + 1)

namespace Endpoint

variable {m : Type → Type} [Monad m]

/-- Sends a request and says what the reply means. -/
def send (endpoint : Endpoint m) (request : String) : ExceptT Error m Value := do
  let reply ← ExceptT.lift (endpoint.post request)
  liftExcept reply.result

/-- Calls a method of the endpoint. -/
def call (endpoint : Endpoint m) (method : String) (params : Value) : ExceptT Error m Value := do
  let id ← ExceptT.lift endpoint.nextId
  retry endpoint.retries (endpoint.send (requestText id method params))

end Endpoint

/-! ## Views -/

/-- Text in base 64. -/
def base64Of (text : String) : String :=
  String.ofList (Text.Base64.encode (Text.Utf8.encode text))

/-- What is asked of the endpoint for a view. -/
def viewParams (account method : String) (args : Value) : Value :=
  .record [
    ("request_type", .string "call_function"),
    ("finality", .string "optimistic"),
    ("account_id", .string account),
    ("method_name", .string method),
    ("args_base64", .string (base64Of args.toText))]

/-- A number below 256. -/
def byteOf? (v : Value) : Option UInt8 := do
  let n ← v.asUInt64?
  if n.toNat < 256 then some (UInt8.ofNat n.toNat) else none

/-- The bytes that an array lists. -/
def bytesOf? : Value → Option (List UInt8)
  | .array items => items.mapM byteOf?
  | _ => none

/-- What a contract returned, according to the result of a view. -/
def viewed (read : Decoder α) (method : String) (result : Value) : Except Error α :=
  match (result.get? "error").bind Value.asString? with
  | some text => .error (.contractExecution method text)
  | none =>
    match (result.get? "result").bind bytesOf? with
    | none => .error (.invalidResponse (.missingBytes method))
    | some bytes =>
      match ofBytes? read bytes with
      | some a => .ok a
      | none => .error .serialization

/-! ## Broadcasts -/

/-- What a call returned, according to the bytes in base 64 that report its success. -/
def returnValue (encoded : String) : Except Error Value :=
  match Text.Base64.decode ((Text.Utf8.encode encoded).map UInt8.toNat) with
  | .error fault => .error (.base64 fault)
  | .ok [] => .ok .null
  | .ok bytes =>
    match ofBytes? Decoder.value bytes with
    | some v => .ok v
    | none => .error .serialization

/-- The outcome of a transaction, according to the result of a broadcast. -/
def committed (method : String) (result : Value) : Except Error TransactionOutcome :=
  match ((result.get? "transaction").bind (·.get? "hash")).bind Value.asString? with
  | none => .error (.invalidResponse .missingHash)
  | some hash =>
    let status := (result.get? "status").getD .null
    match status.get? "Failure" with
    | some failure => .error (.contractExecution method failure.toText)
    | none =>
      match (status.get? "SuccessValue").bind Value.asString? with
      | none => .error (.invalidResponse (.status status.toText))
      | some encoded => (returnValue encoded).map fun v => ⟨hash, v⟩

namespace Endpoint

variable {m : Type → Type} [Monad m]

/-- Asks a view of a contract. -/
def view (endpoint : Endpoint m) (read : Decoder α) (account method : String) (args : Value) :
    ExceptT Error m α := do
  let result ← endpoint.call "query" (viewParams account method args)
  liftExcept (viewed read method result)

/-- Sends a signed transaction and waits until it is committed. -/
def broadcast (endpoint : Endpoint m) (method transaction : String) :
    ExceptT Error m TransactionOutcome := do
  let result ← endpoint.call "broadcast_tx_commit" (.array [.string transaction])
  liftExcept (committed method result)

/-- Asks whether the endpoint answers. -/
def healthCheck (endpoint : Endpoint m) : ExceptT Error m Bool := do
  let _ ← endpoint.call "status" (.array [])
  return true

end Endpoint

end Governance.Rpc
