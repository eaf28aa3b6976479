import Governance.Proofs.Json.Depth
import Governance.Proofs.Json.Values
import Governance.Proofs.Rpc.Repetition

/-!
# How bytes are delivered

What a view returns comes as an array of numbers, one for each byte, in the result of the call, and the result comes in
the answer to the request; both are objects with other members besides. The answer is read as free JSON, so the bytes
go through numbers below 256 and nothing else (`bytesOf?_array`), and only what they spell is
then read as what it should be. Hence an envelope delivers exactly the bytes that were put into it
(`Reply.viewed_of_delivers`), also if some attempts before failed (`Endpoint.view_of_brings`).
-/

namespace Governance.Rpc

open Json Text

/-! ## Bytes as numbers -/

/-- The array of the numbers of bytes. -/
def byteArray (bytes : List UInt8) : Document :=
  .array (bytes.map fun b => .nat b.toNat)

/-- A byte is read from its number. -/
theorem byteOf?_nat (b : UInt8) : byteOf? (.nat b.toNat) = some b := by
  have word := Value.asUInt64?_nat b.toUInt64
  rw [UInt8.toNat_toUInt64] at word
  rw [byteOf?, word, Option.bind_eq_bind, Option.bind_some, UInt8.toNat_toUInt64, if_pos b.toNat_lt,
    UInt8.ofNat_toNat]

/-- Bytes are read from their numbers. -/
theorem bytesOf?_array (bytes : List UInt8) :
    bytesOf? (.array (bytes.map fun b => .nat b.toNat)) = some bytes := by
  show (bytes.map fun b => Value.nat b.toNat).mapM byteOf? = some bytes
  induction bytes with
  | nil => rfl
  | cons b bytes ih =>
    rw [List.map_cons, List.mapM_cons, byteOf?_nat, ih]
    rfl

/-- The array of numbers spells the array of these numbers. -/
theorem spells_byteArray (allowed : Nat) (bytes : List UInt8) :
    Document.Spells (allowed + 1) (byteArray bytes) (.array (bytes.map fun b => .nat b.toNat)) := by
  unfold byteArray
  refine Document.spells_array bytes fun b _ => ?_
  have spells : Document.Spells allowed (.nat b.toUInt64.toNat) (.nat b.toUInt64.toNat) :=
    Document.spells_nat b.toUInt64
  rw [UInt8.toNat_toUInt64] at spells
  exact spells

/-! ## Envelopes -/

/-- The members of an answer to a view that brings bytes, and the members of its result. There may be any members
besides, but no name occurs twice, no error is told, and what the result holds is free JSON that nests no deeper
than is allowed where it stands. -/
structure Envelope (bytes : List UInt8) where
  answer : List (String × Document)
  result : List (String × Document)
  answer_distinct : (answer.map Prod.fst).Nodup
  result_distinct : (result.map Prod.fst).Nodup
  answered : ("result", .record result) ∈ answer
  filled : ("result", byteArray bytes) ∈ result
  free : ∀ m ∈ result, Document.Within (Value.deepest - 2) m.2
  answer_calm : ∀ d, ("error", d) ∈ answer → d = .null
  result_calm : ∀ d, ("error", d) ∈ result → d = .null

/-- A successful reply whose body spells an envelope with the bytes. -/
def Reply.Delivers (reply : Reply) (bytes : List UInt8) : Prop :=
  ∃ (envelope : Envelope bytes) (status : Nat) (retryAfter : Option String) (text : String),
    isSuccess status = true ∧ Document.parse text.toList = some (.record envelope.answer) ∧
      reply = .answered status retryAfter (Utf8.encode text)

namespace Envelope

variable {bytes : List UInt8} (envelope : Envelope bytes)

/-- The members of the result as values. -/
def values : List (String × Value) :=
  envelope.result.map fun m => (m.1, (Value.ofDocument? (Value.deepest - 2) m.2).getD .null)

/-- The result is read as the object of its members. -/
theorem result_read :
    Value.ofDocument? (Value.deepest - 1) (.record envelope.result) = some (.record envelope.values) := by
  show Value.ofDocument? (Value.deepest - 2 + 1) _ = _
  refine Value.ofDocument?_record ?_
  rw [values, List.forall₂_map_right_iff, List.forall₂_same]
  intro m hm
  obtain ⟨v, read⟩ := envelope.free m hm
  exact ⟨rfl, by rw [read]; rfl⟩

theorem values_distinct : (envelope.values.map Prod.fst).Nodup := by
  rw [values, List.map_map]
  exact envelope.result_distinct

/-- The bytes are found in the result. -/
theorem get?_result :
    (Value.record envelope.values).get? "result" = some (.array (bytes.map fun b => .nat b.toNat)) := by
  refine (StringMap.get?_ofList_iff envelope.values_distinct).2 (List.mem_map.2 ⟨_, envelope.filled, ?_⟩)
  rw [show Value.deepest - 2 = Value.deepest - 3 + 1 from rfl, (spells_byteArray _ bytes).read]
  rfl

/-- No error is found in the result. -/
theorem get?_error : ((Value.record envelope.values).get? "error").bind Value.asString? = none := by
  refine Option.bind_eq_none_iff.2 fun v found => ?_
  have held := (StringMap.get?_ofList_iff envelope.values_distinct).1 found
  obtain ⟨⟨name, d⟩, listed, same⟩ := List.mem_map.1 held
  obtain ⟨rfl, rfl⟩ := Prod.mk.inj same
  rw [envelope.result_calm d listed]
  rfl

/-- The answer is read as one with the result and without an error. -/
theorem answer_read : Answer.ofDocument? Value.deepest (.record envelope.answer) =
    some ⟨some (.record envelope.values), none⟩ := by
  have result : envelope.answer.lookup "result" = some (.record envelope.result) :=
    Document.lookup_of_mem envelope.answer_distinct envelope.answered
  have given : Decoder.nullable Decoder.value (Value.deepest - 1) (.record envelope.result) =
      some (some (.record envelope.values)) := congrArg (Option.map some) envelope.result_read
  have calm : (Decoder.written ["result", "error"] envelope.answer (Value.deepest - 1)).withDefault
      "error" none (Decoder.nullable NodeError.ofDocument?) = some none := by
    refine Decoder.withDefault_missing (by simp) fun d told => envelope.answer_calm d ?_
    obtain ⟨before, after, split, _⟩ := List.lookup_eq_some_iff.1 told
    rw [split]
    exact List.mem_append_right _ List.mem_cons_self
  refine (Decoder.bind_record_written envelope.answer_distinct ["result", "error"]
    (Value.deepest - 1) _).trans ?_
  rw [Decoder.withDefault_written (by simp) result, given, calm]
  rfl

end Envelope

/-- A reply that delivers bytes gives a result, in which a view finds what the bytes spell. -/
theorem Reply.viewed_of_delivers {reply : Reply} {bytes : List UInt8} (delivers : reply.Delivers bytes) :
    ∃ v, reply.result = .ok v ∧ ∀ {α : Type} (read : Decoder α) (method : String) (a : α),
      ofBytes? read bytes = some a → viewed read method v = .ok a := by
  obtain ⟨envelope, status, retryAfter, text, success, parsed, rfl⟩ := delivers
  have calm : status ≠ 429 := by
    intro limited
    rw [limited] at success
    cases success
  have read : ofBytes? Answer.ofDocument? (Utf8.encode text) =
      some ⟨some (.record envelope.values), none⟩ := by
    rw [ofBytes?_encode, Decoder.ofText?, parsed]
    exact envelope.answer_read
  refine ⟨.record envelope.values, ?_, ?_⟩
  · rw [result, if_neg calm, success, if_neg (by decide), read]
    rfl
  · intro α read method a spelled
    rw [viewed, envelope.get?_error]
    dsimp only
    rw [envelope.get?_result, Option.bind_some, bytesOf?_array]
    dsimp only
    rw [spelled]

/-- The envelope in which a node sends bytes: with the version and the ID of the call, and with the height of the block
and the log of the view. -/
def Envelope.ofNode (bytes : List UInt8) : Envelope bytes where
  answer := [("jsonrpc", .text "2.0"), ("id", .nat 1), ("result", .record [
    ("block_height", .nat 187310138), ("logs", .array []), ("result", byteArray bytes)])]
  result := [("block_height", .nat 187310138), ("logs", .array []), ("result", byteArray bytes)]
  answer_distinct := by simp
  result_distinct := by simp
  answered := by simp
  filled := by simp
  free := by
    simp only [List.forall_mem_cons]
    exact ⟨⟨_, (Document.spells_nat 187310138).read⟩, ⟨_, rfl⟩, ⟨_, (spells_byteArray _ bytes).read⟩,
      List.forall_mem_nil _⟩
  answer_calm := by simp
  result_calm := by simp

/-- The reply in which a node sends bytes. -/
def Reply.ofNode (bytes : List UInt8) : Reply :=
  .answered 200 none (Utf8.encode (Document.record (Envelope.ofNode bytes).answer).toText)

/-- All bytes can be delivered. -/
theorem Reply.delivers_ofNode (bytes : List UInt8) : (ofNode bytes).Delivers bytes := by
  have result : (Document.record (Envelope.ofNode bytes).result).Writable := by
    refine Document.writable_record ?_
    simp only [Envelope.ofNode, List.forall_mem_cons]
    exact ⟨Document.writable_nat _, trivial, (spells_byteArray 0 bytes).writable, List.forall_mem_nil _⟩
  refine ⟨Envelope.ofNode bytes, 200, none, _, rfl, Document.parse_toText ?_, rfl⟩
  refine Document.writable_record ?_
  simp only [Envelope.ofNode, List.forall_mem_cons]
  exact ⟨Document.writable_text _, Document.writable_nat _, result, List.forall_mem_nil _⟩

/-! ## Views -/

/-- The endpoint answers a view with bytes, perhaps after some replies that are worth another attempt, at most as
many as there are repetitions. -/
def Endpoint.Brings {σ : Type} (endpoint : Endpoint (StateM σ)) (account method : String) (args : Value)
    (s : σ) (bytes : List UInt8) : Prop :=
  ∃ n ≤ endpoint.retries,
    (endpoint.callReply "query" (viewParams account method args) s n).Delivers bytes ∧
      ∀ k < n, ¬ Ends Error.isRetryable
        (endpoint.callReply "query" (viewParams account method args) s k).result

/-- The view gives what the bytes spell. -/
theorem Endpoint.view_of_brings {σ α : Type} {endpoint : Endpoint (StateM σ)} {account method : String}
    {args : Value} {s : σ} {bytes : List UInt8} (brings : endpoint.Brings account method args s bytes)
    {read : Decoder α} {a : α} (spelled : ofBytes? read bytes = some a) :
    (endpoint.view read account method args s).1 = .ok a := by
  obtain ⟨n, enough, delivers, before⟩ := brings
  obtain ⟨v, result, means⟩ := Reply.viewed_of_delivers delivers
  have first : IsLeast {k | Ends Error.isRetryable
      (endpoint.callReply "query" (viewParams account method args) s k).result} n := by
    refine ⟨?_, fun k ends => Nat.le_of_not_lt fun early => before k early ends⟩
    show Ends _ _
    rw [result]
    exact ends_ok _ v
  have call := Endpoint.call_of_first first enough
  rw [result] at call
  rw [Endpoint.view, run_bind_ok call, run_liftExcept]
  exact means read method a spelled

end Governance.Rpc
