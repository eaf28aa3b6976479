import Governance.Correlation.Key
import Governance.Proofs.Json.Records
import Governance.Proofs.Timestamp

/-!
# Reading back a key

A key goes through the session as JSON text. It comes back as it was if its fields hold values that reading can
give and that nest no deeper than is allowed where they stand (`Fields.Plain`). Nothing is asked of
the other parts: every ID, tag, token and time is read back. Main statement: `CorrelationKey.ofText?_toText`.
-/

namespace Governance

open Json

/-- A value that is read back where `around` arrays and objects are open. -/
def Json.Value.Plain (around : Nat) (v : Value) : Prop :=
  v.Regular ∧ v.depth + around ≤ deepest

namespace Fields

/-- Fields that are read back from the document of a key, in which two objects are open around each value. -/
def Plain (fields : Fields) : Prop :=
  ∀ e ∈ fields.entries, e.2.Plain 2

theorem writable_toDocument {fields : Fields} (plain : fields.Plain) :
    fields.toDocument.Writable := by
  refine Document.writable_record ?_
  intro m hm
  obtain ⟨e, he, rfl⟩ := List.mem_map.1 hm
  exact Value.writable_toDocument e.2 (plain e he).1

theorem ofDocument?_toDocument {fields : Fields} (plain : fields.Plain) :
    ofDocument? (Value.deepest - 1) fields.toDocument = some fields := by
  refine Decoder.map_written fields ?_
  intro e he
  obtain ⟨regular, shallow⟩ := plain e he
  have deepest : Value.deepest = 127 := rfl
  exact Value.ofDocument?_toDocument e.2 _ regular (by omega)

end Fields

namespace CorrelationKey

variable {key : CorrelationKey}

theorem writable_toDocument (plain : key.fields.Plain) : key.toDocument.Writable := by
  refine Document.writable_record ?_
  simp only [List.forall_mem_cons]
  exact ⟨Document.writable_nat _, Document.writable_text _, Fields.writable_toDocument plain,
    Document.writable_text _, Document.writable_text _, fun _ h => by cases h⟩

theorem ofDocument?_toDocument (plain : key.fields.Plain) :
    ofDocument? Value.deepest key.toDocument = some key := by
  have tag : KindTag.ofDocument? (Value.deepest - 1) key.expectedKind.toDocument =
      some key.expectedKind := Decoder.oneOf_text key.expectedKind.lookup_name _
  rw [ofDocument?, toDocument, show Value.deepest = Value.deepest - 1 + 1 from rfl,
    Decoder.bind_record_written (by simp)]
  -- field by field: what was written for it, and that it is read back
  rw [Decoder.required_written (by decide) rfl, Decoder.uint64_nat]
  rw [Decoder.required_written (by decide) rfl, tag]
  rw [Decoder.required_written (by decide) rfl, Fields.ofDocument?_toDocument plain]
  rw [Decoder.required_written (by decide) rfl, Decoder.filterMap_text, Uuid.ofText?_toText]
  rw [Decoder.required_written (by decide) rfl, Decoder.filterMap_text, Timestamp.ofText?_toText]
  rfl

/-- **A key is read back from its text.** -/
theorem ofText?_toText (plain : key.fields.Plain) : ofText? key.toText = some key := by
  rw [ofText?, toText, Decoder.ofText?_toText (writable_toDocument plain)]
  exact ofDocument?_toDocument plain

end CorrelationKey

end Governance
