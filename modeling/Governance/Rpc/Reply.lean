import Governance.Error
import Governance.Json.Decoder
import Governance.Rpc.Status
import Governance.Text.Blank
import Governance.Text.Decimal
import Governance.Text.Utf8

/-!
# Requests and replies

Contracts are reached through an endpoint that takes requests in JSON-RPC over HTTP. Here is what goes over the
line: the text of a request (`requestText`), and what a reply means (`Reply.result`): a result, or one of
the errors of the line, of the gateway and of the node.
-/

namespace Governance.Rpc

open Json

/-- The text of a request. -/
def requestText (id : UInt64) (method : String) (params : Value) : String :=
  (Document.record [
    ("jsonrpc", .text "2.0"),
    ("id", .nat id.toNat),
    ("method", .text method),
    ("params", params.toDocument)]).toText

/-- What comes back for a request. -/
inductive Reply
  /-- Nothing: no connection came about, or it broke. -/
  | failed
  /-- A status, the time to wait as the header tells it, and the body. -/
  | answered (status : Nat) (retryAfter : Option String) (body : List UInt8)
  deriving DecidableEq, Repr, Inhabited

/-! ## Errors of the node -/

/-- An error that the node reports. -/
structure NodeError where
  code : Int
  message : String
  name : Option String
  cause : Option Value
  data : Option Value
  deriving DecidableEq

namespace NodeError

/-- Reads an error. -/
def ofDocument? : Decoder NodeError := fun depth d => do
  let r ← Decoder.record ["code", "message", "name", "cause", "data"] depth d
  let free (name : String) := r.withDefault name none (Decoder.nullable Decoder.value)
  return {
    code := ← r.required "code" Decoder.int64
    message := ← r.required "message" Decoder.string
    name := ← r.withDefault "name" none (Decoder.nullable Decoder.string)
    cause := ← free "cause"
    data := ← free "data" }

/-- The name of the cause: the cause's own, or else the error's. -/
def causeName (e : NodeError) : Option String :=
  (do (← (← e.cause).get? "name").asString?) <|> e.name

/-- The error in words. -/
def describe (e : NodeError) : String :=
  let message := e.message
  let code := e.code
  match e.causeName, e.data.map Value.toText with
  | some cause, some data => s!"{message}: {cause} {data} (code: {code})"
  | some cause, none => s!"{message}: {cause} (code: {code})"
  | none, some data => s!"{message} {data} (code: {code})"
  | none, none => s!"{message} (code: {code})"

end NodeError

/-! ## What a reply means -/

/-- The body of a successful reply. -/
structure Answer where
  result : Option Value
  error : Option NodeError
  deriving DecidableEq

/-- Reads the body of a successful reply. -/
def Answer.ofDocument? : Decoder Answer := fun depth d => do
  let r ← Decoder.record ["result", "error"] depth d
  return {
    result := ← r.withDefault "result" none (Decoder.nullable Decoder.value)
    error := ← r.withDefault "error" none (Decoder.nullable NodeError.ofDocument?) }

/-- What bytes spell in JSON. Only a string that is read has to be well-formed UTF-8. -/
def ofBytes? (read : Decoder α) (bytes : List UInt8) : Option α :=
  Decoder.ofText? read (Text.Utf8.decodeWith Literal.illFormed bytes)

/-- The bytes of a text spell what the text does. -/
theorem ofBytes?_encode (read : Decoder α) (text : String) :
    ofBytes? read (Text.Utf8.encode text) = Decoder.ofText? read text := by
  rw [ofBytes?, Text.Utf8.decodeWith_encode]

/-- How long to wait: the number of seconds that the header tells, or one. -/
def waitSeconds (retryAfter : Option String) : UInt64 :=
  ((retryAfter.bind fun s => Text.readBelow UInt64.size s.toList).map UInt64.ofNat).getD 1

/-- What an answer means. -/
def Answer.value (answer : Answer) : Except Error Value :=
  match answer.error with
  | some e => .error (.rpc e.describe)
  | none =>
    match answer.result with
    | some v => .ok v
    | none => .error (.invalidResponse .missingResult)

/-- A reply without success, in words. -/
def failureText (status : Nat) (body : List UInt8) : String :=
  let status := statusText status
  let body := Text.Utf8.decodeLenient body
  s!"HTTP {status}: {body}"

/-- What a reply means. -/
def Reply.result : Reply → Except Error Value
  | failed => .error .network
  | answered status retryAfter body =>
    if status = 429 then .error (.rateLimitExceeded (waitSeconds retryAfter))
    else if !isSuccess status then .error (.rpc (failureText status body))
    else
      match ofBytes? Answer.ofDocument? body with
      | none => .error (.invalidResponse .undecodable)
      | some answer => answer.value

end Governance.Rpc
