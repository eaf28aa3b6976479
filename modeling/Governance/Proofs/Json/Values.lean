import Governance.Proofs.Json.Records
import Governance.Proofs.StringMap
import Mathlib.Data.List.Forall2

/-!
# Documents of free values

A record is written field by field, and where any JSON is allowed its text gives a free value. Which one is told
here without reading: `Spells` relates a document to the value it stands for, by one rule for each way in
which documents are put together. In a value the members are in ascending order of names, so the order in
which they were written does not count (`record_perm`).
-/

namespace Governance

namespace Json

namespace Value

/-- A word is found in its number. -/
theorem asUInt64?_nat (n : UInt64) : (nat n.toNat).asUInt64? = some n := by
  have small := n.toNat_lt
  show (if 0 ≤ (n.toNat : Int) ∧ (n.toNat : Int) < (UInt64.size : Int) then
    some (UInt64.ofNat (n.toNat : Int).toNat) else none) = some n
  rw [if_pos ⟨Int.natCast_nonneg _, Int.ofNat_lt.2 small⟩, Int.toNat_natCast, UInt64.ofNat_toNat]

/-- Members that are in order already stay as they are. -/
theorem record_of_sorted {members : List (String × Value)} (sorted : Entries.Sorted members) :
    record members = .object members := by
  show object (StringMap.ofList members).entries = _
  have same : StringMap.ofList members = ⟨members, sorted⟩ := StringMap.ofList_entries ⟨members, sorted⟩
  rw [same]

/-- Two records with the same members are the same value. -/
theorem record_perm {ms ns : List (String × Value)} (distinct : (ms.map Prod.fst).Nodup)
    (order : ms.Perm ns) : record ms = record ns := by
  rw [record, record, StringMap.ofList_perm distinct order]

/-- Members are read one after the other into the map of those before them. -/
theorem ofMembers?_written {allowed : Nat} {members : List (String × Document)}
    {values : List (String × Value)}
    (each : List.Forall₂ (fun m v => m.1 = v.1 ∧ ofDocument? allowed m.2 = some v.2) members values)
    (done : StringMap Value) :
    ofMembers? allowed (members.map fun (name, d) => (some name, d)) done.entries =
      some (values.foldl (fun m e => m.insert e.1 e.2) done).entries := by
  induction each generalizing done with
  | nil => rfl
  | @cons m v members values first _ ih =>
    obtain ⟨name, d⟩ := m
    obtain ⟨same, read⟩ := first
    dsimp only at same read
    subst same
    rw [List.map_cons, ofMembers?, read, List.foldl_cons, ← ih (done.insert v.1 v.2)]
    rfl

/-- An object whose members are values is the object of these values. -/
theorem ofDocument?_record {allowed : Nat} {members : List (String × Document)}
    {values : List (String × Value)}
    (each : List.Forall₂ (fun m v => m.1 = v.1 ∧ ofDocument? allowed m.2 = some v.2) members values) :
    ofDocument? (allowed + 1) (.record members) = some (.record values) := by
  show (ofMembers? allowed _ (StringMap.empty : StringMap Value).entries).map Value.object = _
  rw [ofMembers?_written each]
  rfl

end Value

namespace Document

/-! ## What a document stands for -/

/-- A document that can be written, and that is read as a value where arrays and objects may nest `allowed`
deep. -/
structure Spells (allowed : Nat) (d : Document) (v : Value) : Prop where
  writable : d.Writable
  read : Value.ofDocument? allowed d = some v

/-- Members of an object, and the members that they spell in the same order. -/
def SpellsMembers (allowed : Nat) : List (String × Document) → List (String × Value) → Prop :=
  List.Forall₂ fun m v => m.1 = v.1 ∧ Spells allowed m.2 v.2

variable {α : Type} {allowed : Nat}

theorem spells_text (s : String) : Spells allowed (.text s) (.string s) :=
  ⟨writable_text s, rfl⟩

theorem spells_nat (n : UInt64) : Spells allowed (.nat n.toNat) (.nat n.toNat) where
  writable := writable_nat n.toNat
  read := by
    have small := n.toNat_lt
    have range : Number.InRange (n.toNat : Int) := by
      show (-9223372036854775808 : Int) ≤ n.toNat ∧ (n.toNat : Int) < 18446744073709551616
      omega
    have back := Value.ofDocument?_toDocument (.number (.integer n.toNat)) allowed range
      (Nat.zero_le allowed)
    rw [Value.toDocument, Number.toNumeral, Numeral.ofInt_natCast] at back
    exact back

/-- A value is spelled by its own document. -/
theorem spells_value {v : Value} (regular : v.Regular) (shallow : v.depth ≤ allowed) :
    Spells allowed v.toDocument v :=
  ⟨Value.writable_toDocument v regular, Value.ofDocument?_toDocument v allowed regular shallow⟩

theorem spells_nullable {write : α → Document} {wrap : α → Value}
    (each : ∀ a, Spells allowed (write a) (wrap a)) (a : Option α) :
    Spells allowed (.nullable write a) (.nullable wrap a) := by
  cases a with
  | none => exact ⟨trivial, rfl⟩
  | some a => exact each a

theorem spells_array {write : α → Document} {wrap : α → Value} (items : List α)
    (each : ∀ a ∈ items, Spells allowed (write a) (wrap a)) :
    Spells (allowed + 1) (.array (items.map write)) (.array (items.map wrap)) := by
  have both : WritableItems (items.map write) ∧
      Value.ofItems? allowed (items.map write) = some (items.map wrap) := by
    induction items with
    | nil => exact ⟨trivial, rfl⟩
    | cons a items ih =>
      obtain ⟨writable, read⟩ := each a List.mem_cons_self
      obtain ⟨others, rest⟩ := ih fun a ha => each a (List.mem_cons_of_mem _ ha)
      refine ⟨⟨writable, others⟩, ?_⟩
      rw [List.map_cons, Value.ofItems?, read, rest]
      rfl
  refine ⟨both.1, ?_⟩
  rw [Value.ofDocument?, both.2]
  rfl

namespace SpellsMembers

variable {members others : List (String × Document)} {values rest : List (String × Value)}

theorem nil : SpellsMembers allowed [] [] :=
  List.Forall₂.nil

theorem cons {name : String} {d : Document} {v : Value} (first : Spells allowed d v)
    (h : SpellsMembers allowed members values) :
    SpellsMembers allowed ((name, d) :: members) ((name, v) :: values) :=
  List.Forall₂.cons ⟨rfl, first⟩ h

theorem append (h : SpellsMembers allowed members values) (h' : SpellsMembers allowed others rest) :
    SpellsMembers allowed (members ++ others) (values ++ rest) :=
  List.rel_append h h'

/-- Written members have the names of the values that they spell. -/
theorem names (h : SpellsMembers allowed members values) :
    members.map Prod.fst = values.map Prod.fst := by
  induction h with
  | nil => rfl
  | cons first _ ih => rw [List.map_cons, List.map_cons, first.1, ih]

end SpellsMembers

/-- A record spells the object of what its members spell. -/
theorem spells_record {members : List (String × Document)} {values : List (String × Value)}
    (each : SpellsMembers allowed members values) :
    Spells (allowed + 1) (.record members) (.record values) where
  writable := by
    refine writable_record ?_
    induction each with
    | nil => exact nofun
    | cons first _ ih => exact List.forall_mem_cons.2 ⟨first.2.writable, ih⟩
  read := Value.ofDocument?_record (List.Forall₂.imp (fun _ _ h => ⟨h.1, h.2.read⟩) each)

/-- The entries of a map, each written in its place, spell the object of the values. -/
theorem spells_entries (write : α → Document) (wrap : α → Value) (m : StringMap α)
    (each : ∀ e ∈ m.entries, Spells allowed (write e.2) (wrap e.2)) :
    Spells (allowed + 1) (.record (m.entries.map fun e => (e.1, write e.2)))
      (.object (m.entries.map fun e => (e.1, wrap e.2))) := by
  have sorted : Entries.Sorted (m.entries.map fun e => (e.1, wrap e.2)) :=
    List.Pairwise.map _ (fun _ _ lt => lt) m.sorted
  rw [← Value.record_of_sorted sorted]
  refine spells_record ?_
  rw [SpellsMembers, List.forall₂_map_left_iff, List.forall₂_map_right_iff, List.forall₂_same]
  exact fun e he => ⟨rfl, each e he⟩

end Document

end Json

end Governance
