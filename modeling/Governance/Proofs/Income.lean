import Governance.Dao
import Governance.Proofs.Correlation.Persistence
import Governance.Proofs.Rpc.Delivery

/-!
# Amounts on their way

Amounts of 128 bits are more than free JSON holds: a number from `2 ^ 64` on becomes a double there. So the documents of
income tables, failed payouts and calls must never be read as free JSON on their way, only as what they are. Each of
them is read back from its document (`IncomeTable.ofDocument?_toDocument` and so on), and the bytes of a text pass
the free JSON around them one by one. Main statement: lists of income tables and of failed payouts arrive as
they were sent, and calls are read back from their texts, whatever the amounts (`amounts_delivered`).
-/

namespace Governance

open Json Rpc Text

/-! ## Documents with amounts -/

namespace Amount

variable (a : Amount)

/-- An amount is read back, however large it is. -/
theorem ofDocument?_toDocument (depth : Nat) : ofDocument? depth a.toDocument = some a := by
  show ((Numeral.ofNat a.yocto).natBelow bound).bind ofYocto? = some a
  rw [Numeral.natBelow_ofNat a.bounded, Option.bind_some, ofYocto?, dif_pos a.bounded]

theorem writable_toDocument : a.toDocument.Writable :=
  Document.writable_nat a.yocto

end Amount

namespace IncomeTable

variable (table : IncomeTable)

theorem writable_toDocument : table.toDocument.Writable := by
  refine Document.writable_record ?_
  simp only [List.forall_mem_cons]
  refine ⟨table.totalIncome.writable_toDocument, table.currentBalance.writable_toDocument,
    Document.writable_text _, Document.writable_text _, Document.writable_text _, ?_, List.forall_mem_nil _⟩
  cases table.price with
  | none => trivial
  | some price => exact Document.writable_text price

theorem ofDocument?_toDocument (depth : Nat) :
    ofDocument? (depth + 1) table.toDocument = some table := by
  rw [ofDocument?, toDocument, Decoder.bind_record_written (by simp)]
  rw [Decoder.required_written (by decide) rfl, Amount.ofDocument?_toDocument]
  rw [Decoder.required_written (by decide) rfl, Amount.ofDocument?_toDocument]
  rw [Decoder.required_text (by decide) rfl, Decoder.required_text (by decide) rfl,
    Decoder.required_text (by decide) rfl]
  rw [Decoder.withDefault_written (by decide) rfl, Decoder.nullable_text]
  rfl

end IncomeTable

namespace FailedTransaction

variable (failed : FailedTransaction)

theorem writable_toDocument : failed.toDocument.Writable := by
  refine Document.writable_record ?_
  simp only [List.forall_mem_cons]
  exact ⟨Document.writable_text _, failed.amount.writable_toDocument, List.forall_mem_nil _⟩

theorem ofDocument?_toDocument (depth : Nat) :
    ofDocument? (depth + 1) failed.toDocument = some failed := by
  rw [ofDocument?, toDocument, Decoder.bind_record_written (by simp)]
  rw [Decoder.required_text (by decide) rfl]
  rw [Decoder.required_written (by decide) rfl, Amount.ofDocument?_toDocument]
  rfl

end FailedTransaction

namespace FunctionCall

variable {call : FunctionCall}

theorem writable_toDocument (plain : call.args.Plain 1) : call.toDocument.Writable := by
  refine Document.writable_record ?_
  simp only [List.forall_mem_cons]
  exact ⟨Document.writable_text _, Document.writable_text _, Value.writable_toDocument _ plain.1,
    Document.writable_nat _, call.deposit.writable_toDocument, List.forall_mem_nil _⟩

/-- A call is read back from its text. -/
theorem ofText?_toText (plain : call.args.Plain 1) :
    Decoder.ofText? ofDocument? call.toDocument.toText = some call := by
  have args : Decoder.value (Value.deepest - 1) call.args.toDocument = some call.args :=
    Value.ofDocument?_toDocument _ _ plain.1 (Nat.le_sub_of_add_le plain.2)
  rw [Decoder.ofText?_toText (writable_toDocument plain)]
  rw [ofDocument?, toDocument, show Value.deepest = Value.deepest - 1 + 1 from rfl,
    Decoder.bind_record_written (by simp)]
  rw [Decoder.required_text (by decide) rfl, Decoder.required_text (by decide) rfl]
  rw [Decoder.required_written (by decide) rfl, args]
  rw [Decoder.required_written (by decide) rfl, Decoder.uint64_nat]
  rw [Decoder.required_written (by decide) rfl, Amount.ofDocument?_toDocument]
  rfl

end FunctionCall

/-! ## Numbered lists -/

section

variable {α : Type} {write : α → Document} {read : Decoder α}

/-- The document of a list whose items stand in arrays, each after its number. -/
def numbered (write : α → Document) (items : List (UInt64 × α)) : Document :=
  .array (items.map fun (i, a) => .array [.nat i.toNat, write a])

/-- The text of a numbered list spells the list. -/
theorem ofBytes?_numbered (writable : ∀ a, (write a).Writable)
    (back : ∀ depth a, read (depth + 1) (write a) = some a) (items : List (UInt64 × α)) :
    ofBytes? (Decoder.list (Decoder.pair Decoder.uint64 read)) (Utf8.encode (numbered write items).toText) =
      some items := by
  have list : (numbered write items).Writable := by
    refine Document.writable_array fun d hd => ?_
    obtain ⟨⟨i, a⟩, _, rfl⟩ := List.mem_map.1 hd
    refine Document.writable_array ?_
    simp only [List.forall_mem_cons]
    exact ⟨Document.writable_nat _, writable a, List.forall_mem_nil _⟩
  rw [ofBytes?_encode, Decoder.ofText?_toText list]
  show Decoder.list _ (Value.deepest - 1 + 1) _ = _
  refine Decoder.list_written items fun item _ => ?_
  obtain ⟨i, a⟩ := item
  show (Decoder.uint64 _ _).bind (fun i => (read _ _).bind fun a => some (i, a)) = _
  rw [Decoder.uint64_nat, Option.bind_some, back]
  rfl

end

/-! ## Views of amounts -/

/-- **Amounts arrive as they were sent.** If the endpoint answers the view with the bytes of the text of a list, in an
envelope and perhaps after attempts that failed, income tables and failed payouts are the ones of the list, with
all their indexes and amounts; and a call whose arguments are plain where they stand is read back from its text. -/
theorem amounts_delivered :
    (∀ {σ : Type} (dao : Dao (StateM σ)) (s : σ) (fromIndex limit : UInt64)
      (tables : List (UInt64 × IncomeTable)),
      dao.endpoint.Brings dao.config.contractId "get_income_tables" (.record (Dao.stretch fromIndex limit)) s
        (Utf8.encode (numbered IncomeTable.toDocument tables).toText) →
      (dao.incomeTables fromIndex limit s).1 = .ok tables) ∧
    (∀ {σ : Type} (dao : Dao (StateM σ)) (s : σ) (fromIndex limit : UInt64)
      (failed : List (UInt64 × FailedTransaction)),
      dao.endpoint.Brings dao.config.contractId "get_failed_transactions"
        (.record (Dao.stretch fromIndex limit)) s
        (Utf8.encode (numbered FailedTransaction.toDocument failed).toText) →
      (dao.failedTransactions fromIndex limit s).1 = .ok failed) ∧
    ∀ call : FunctionCall, call.args.Plain 1 →
      Decoder.ofText? FunctionCall.ofDocument? call.toDocument.toText = some call := by
  refine ⟨?_, ?_, ?_⟩
  · intro σ dao s fromIndex limit tables brings
    exact Endpoint.view_of_brings brings (ofBytes?_numbered IncomeTable.writable_toDocument
      (fun depth table => IncomeTable.ofDocument?_toDocument table depth) tables)
  · intro σ dao s fromIndex limit failed brings
    exact Endpoint.view_of_brings brings (ofBytes?_numbered FailedTransaction.writable_toDocument
      (fun depth failed => FailedTransaction.ofDocument?_toDocument failed depth) failed)
  · intro call plain
    exact FunctionCall.ofText?_toText plain

/-- The largest amount and the first one that is too large for 64 bits arrive, though the connection broke at first,
and a call keeps the largest amount as its deposit. -/
theorem amounts_delivered_above_word :
    let largest : Amount := ⟨340282366920938463463374607431768211455, by decide⟩
    let above : Amount := ⟨18446744073709551616, by decide⟩
    let tables := [((7 : UInt64), (⟨largest, above, "root", "mint.near", "owner.near", none⟩ : IncomeTable))]
    let failed := [((8 : UInt64), (⟨"artist.near", above⟩ : FailedTransaction))]
    let call : FunctionCall := ⟨"dao.near", "buy_nft", .array [.string "root"], 30, largest⟩
    let dao : List UInt8 → Dao (StateM Nat) := fun bytes =>
      ⟨Endpoint.scripted (fun k => if k = 0 then .failed else .ofNode bytes) 3, Signer.readOnly _,
        Config.ofNetwork .testnet "dao.near"⟩
    let text := fun d : Document => Utf8.encode d.toText
    ((dao (text (numbered IncomeTable.toDocument tables))).incomeTables 0 10 0).1 = .ok tables ∧
    ((dao (text (numbered FailedTransaction.toDocument failed))).failedTransactions 0 10 0).1 = .ok failed ∧
    Decoder.ofText? FunctionCall.ofDocument? call.toDocument.toText = some call := by
  intro largest above tables failed call dao text
  have brings : ∀ bytes method args,
      (dao bytes).endpoint.Brings (dao bytes).config.contractId method args 0 bytes := by
    intro bytes method args
    refine ⟨1, show 1 ≤ 3 by decide, ?_, fun k early => ?_⟩
    · rw [Endpoint.callReply_scripted]
      exact Reply.delivers_ofNode bytes
    · rw [Endpoint.callReply_scripted, Nat.lt_one_iff.1 early, if_pos rfl]
      show ¬ Ends _ (.error .network)
      rw [ends_error_iff]
      decide
  have plain : call.args.Plain 1 := ⟨⟨trivial, trivial⟩, by decide⟩
  exact ⟨amounts_delivered.1 _ _ _ _ _ (brings _ _ _), amounts_delivered.2.1 _ _ _ _ _ (brings _ _ _),
    amounts_delivered.2.2 call plain⟩

end Governance
