import Governance.Proofs.Correlation.Persistence

/-!
# What the text of a key can be read as

A value may nest too deep to be read back. Then its text is not read at all: whatever is read from the document of
a value nests as deep as the value (`Value.depth_le_of_ofDocument?`). So the text of a key whose fields hold
no doubles spells that key, or nothing (`CorrelationKey.eq_of_ofText?_toText`).
-/

namespace Governance

open Json

/-! ## Depth -/

namespace Json.Value

mutual

/-- Only what is shallow enough can be read. -/
theorem depth_le_of_ofDocument? : ∀ (v : Value) (allowed : Nat) {w : Value},
    ofDocument? allowed v.toDocument = some w → v.depth ≤ allowed
  | .null, _, _, _ | .bool _, _, _, _ | .number _, _, _, _ | .string _, _, _, _ => Nat.zero_le _
  | .array items, 0, _, h => by cases h
  | .array items, allowed + 1, _, h => by
    obtain ⟨ws, read, _⟩ := Option.map_eq_some_iff.1 h
    exact Nat.succ_le_succ (depthItems_le_of_ofItems? items allowed read)
  | .object members, 0, _, h => by cases h
  | .object members, allowed + 1, _, h => by
    obtain ⟨ms, read, _⟩ := Option.map_eq_some_iff.1 h
    exact Nat.succ_le_succ (depthMembers_le_of_ofMembers? members allowed [] read)

theorem depthItems_le_of_ofItems? : ∀ (vs : List Value) (allowed : Nat) {ws : List Value},
    ofItems? allowed (toItems vs) = some ws → depthItems vs ≤ allowed
  | [], _, _, _ => Nat.zero_le _
  | v :: vs, allowed, _, h => by
    obtain ⟨w, first, h⟩ := Option.bind_eq_some_iff.1 h
    obtain ⟨ws, rest, _⟩ := Option.bind_eq_some_iff.1 h
    exact Nat.max_le.2 ⟨depth_le_of_ofDocument? v allowed first,
      depthItems_le_of_ofItems? vs allowed rest⟩

theorem depthMembers_le_of_ofMembers? : ∀ (ms : List (String × Value)) (allowed : Nat)
    (done : List (String × Value)) {read : List (String × Value)},
    ofMembers? allowed (toMembers ms) done = some read → depthMembers ms ≤ allowed
  | [], _, _, _, _ => Nat.zero_le _
  | (name, v) :: ms, allowed, done, _, h => by
    obtain ⟨w, first, rest⟩ := Option.bind_eq_some_iff.1 h
    exact Nat.max_le.2 ⟨depth_le_of_ofDocument? v allowed first,
      depthMembers_le_of_ofMembers? ms allowed _ rest⟩

end

end Json.Value

/-! ## Fields and keys -/

namespace Fields

/-- Fields without doubles. -/
def Regular (fields : Fields) : Prop :=
  ∀ e ∈ fields.entries, e.2.Regular

theorem Plain.regular {fields : Fields} (plain : fields.Plain) : fields.Regular :=
  fun e he => (plain e he).1

/-- Each member of an object that is read as a map was read. -/
theorem read_of_namedMembers {read : Document → Option Value} {members : List (String × Document)}
    {values : List (String × Value)}
    (h : Decoder.namedMembers read (members.map fun (name, d) => (some name, d)) = some values) :
    ∀ m ∈ members, ∃ v, read m.2 = some v := by
  induction members generalizing values with
  | nil => exact fun _ hm => absurd hm List.not_mem_nil
  | cons m members ih =>
    obtain ⟨v, first, h⟩ := Option.bind_eq_some_iff.1 h
    obtain ⟨vs, rest, _⟩ := Option.bind_eq_some_iff.1 h
    exact List.forall_mem_cons.2 ⟨⟨v, first⟩, ih rest⟩

/-- Fields that can be read where a key has them come back as they were. -/
theorem plain_of_ofDocument? {fields read : Fields} (regular : fields.Regular)
    (h : ofDocument? (Value.deepest - 1) fields.toDocument = some read) : fields.Plain := by
  intro e he
  obtain ⟨values, members, _⟩ := Option.map_eq_some_iff.1 h
  obtain ⟨v, value⟩ := read_of_namedMembers members (e.1, e.2.toDocument)
    (List.mem_map.2 ⟨e, he, rfl⟩)
  have shallow : e.2.depth ≤ 125 := Value.depth_le_of_ofDocument? e.2 _ value
  exact ⟨regular e he, Nat.add_le_add_right shallow 2⟩

end Fields

namespace CorrelationKey

variable {key read : CorrelationKey}

theorem writable_of_regular (regular : key.fields.Regular) : key.toDocument.Writable := by
  have fields : key.fields.toDocument.Writable := by
    refine Document.writable_record fun m hm => ?_
    obtain ⟨e, he, rfl⟩ := List.mem_map.1 hm
    exact Value.writable_toDocument e.2 (regular e he)
  refine Document.writable_record ?_
  simp only [List.forall_mem_cons]
  exact ⟨Document.writable_nat _, Document.writable_text _, fields, Document.writable_text _,
    Document.writable_text _, fun _ h => by cases h⟩

/-- **The text of a key spells the key or nothing.** -/
theorem eq_of_ofText?_toText (regular : key.fields.Regular) (h : ofText? key.toText = some read) :
    read = key := by
  have document := h
  rw [ofText?, toText, Decoder.ofText?_toText (writable_of_regular regular), ofDocument?, toDocument,
    show Value.deepest = Value.deepest - 1 + 1 from rfl, Decoder.bind_record_written (by simp)]
    at document
  -- the fields come third
  obtain ⟨_, _, document⟩ := Option.bind_eq_some_iff.1 document
  obtain ⟨_, _, document⟩ := Option.bind_eq_some_iff.1 document
  obtain ⟨fields, document, _⟩ := Option.bind_eq_some_iff.1 document
  rw [Decoder.required_written (by decide) rfl] at document
  have plain := Fields.plain_of_ofDocument? regular document
  exact Option.some.inj (h.symm.trans (ofText?_toText plain))

end CorrelationKey

end Governance
