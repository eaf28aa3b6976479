import Governance.Json.Decoder
import Mathlib.Data.List.Basic

/-!
# Records that were written

A record is written as an object with a member for each field. What a decoder finds in place of a field is then
what the field's name looks up among the members (`record_written`), so reading such a record is reading the
documents of its fields one by one (`required_written`, `map_written`). The rest is about the single values
that fields hold, and about which documents can be written at all.
-/

namespace Governance.Json

/-! ## Documents that can be written -/

namespace Document

theorem writable_nat (n : Nat) : (nat n).Writable := by
  have := Value.writable_number n
  rw [Numeral.ofInt_natCast] at this
  exact this

theorem writable_text (s : String) : (text s).Writable := rfl

/-- An array can be written if all its items can. -/
theorem writable_array {items : List Document} (each : ∀ d ∈ items, d.Writable) :
    (array items).Writable := by
  show WritableItems items
  induction items with
  | nil => trivial
  | cons d items ih =>
    exact ⟨each d List.mem_cons_self, ih fun d hd => each d (List.mem_cons_of_mem _ hd)⟩

/-- An object can be written if all its members can. -/
theorem writable_record {members : List (String × Document)} (h : ∀ m ∈ members, m.2.Writable) :
    (record members).Writable := by
  show WritableMembers _
  induction members with
  | nil => trivial
  | cons m ms ih =>
    refine ⟨rfl, h m List.mem_cons_self, ih ?_⟩
    intro m hm
    exact h m (List.mem_cons_of_mem _ hm)

/-- Under distinct names, each member is found under its own. -/
theorem lookup_of_mem {members : List (String × Document)} (distinct : (members.map Prod.fst).Nodup)
    {name : String} {d : Document} (held : (name, d) ∈ members) : members.lookup name = some d := by
  obtain ⟨before, after, rfl⟩ := List.append_of_mem held
  refine List.lookup_eq_some_iff.2 ⟨before, after, rfl, fun m hm => ?_⟩
  rw [List.map_append, List.map_cons, List.nodup_append] at distinct
  simpa using Ne.symm (distinct.2.2 m.1 (List.mem_map_of_mem hm) name List.mem_cons_self)

end Document

namespace Decoder

variable {α : Type} {members : List (String × Document)} {names : List String} {name : String}
  {depth : Nat}

/-- What is written can be read as a document, so its text is read as the document is. -/
theorem ofText?_toText {d : Document} (writable : d.Writable) (read : Decoder α) :
    ofText? read d.toText = read Value.deepest d := by
  rw [ofText?, Document.parse_toText writable]
  rfl

/-! ## Single values -/

theorem uint64_nat (depth : Nat) (n : UInt64) : uint64 depth (.nat n.toNat) = some n := by
  rw [uint64, Document.nat, natBelow, Numeral.natBelow_ofNat n.toNat_lt, Option.map_some,
    UInt64.ofNat_toNat]

theorem filterMap_text (depth : Nat) (f : String → Option α) (s : String) :
    filterMap f string depth (.text s) = f s := rfl

/-- A name of the list is read from its text. -/
theorem oneOf_text {named : List (String × α)} {a : α} (held : named.lookup name = some a)
    (depth : Nat) : oneOf named depth (.text name) = some a := held

/-- A text that may be missing is read from what was written for it. -/
theorem nullable_text (depth : Nat) (s : Option String) :
    nullable string depth (.nullable .text s) = some s := by
  cases s <;> rfl

/-- A list is read from the array of its items. -/
theorem list_written {read : Decoder α} {write : α → Document} (items : List α)
    (back : ∀ a ∈ items, read depth (write a) = some a) :
    list read (depth + 1) (.array (items.map write)) = some items := by
  show (items.map write).mapM (read depth) = some items
  induction items with
  | nil => rfl
  | cons a items ih =>
    rw [List.map_cons, List.mapM_cons, back a List.mem_cons_self,
      ih fun a ha => back a (List.mem_cons_of_mem _ ha)]
    rfl

/-- The entries of a map are read from an object with the same entries. -/
theorem map_written {read : Decoder α} {write : α → Document} (entries : StringMap α)
    (back : ∀ e ∈ entries.entries, read depth (write e.2) = some e.2) :
    map read (depth + 1) (.record (entries.entries.map fun e => (e.1, write e.2))) = some entries := by
  have each : ∀ es : List (String × α), (∀ e ∈ es, read depth (write e.2) = some e.2) →
      namedMembers (read depth)
        ((es.map fun e => (e.1, write e.2)).map fun m => (some m.1, m.2)) = some es := by
    intro es
    induction es with
    | nil => intro _; rfl
    | cons e es ih =>
      intro back
      rw [List.map_cons, List.map_cons, namedMembers, back e List.mem_cons_self,
        ih fun e he => back e (List.mem_cons_of_mem _ he)]
      rfl
  rw [Document.record, map, each _ back, Option.map_some, StringMap.ofList_entries]

/-! ## Fields -/

/-- The fields of a record are one level deeper than the record. -/
theorem depth_of_record {d : Document} {r : Record} (h : record names (depth + 1) d = some r) :
    r.depth = depth := by
  cases d with
  | object members =>
    rw [record] at h
    split at h
    · obtain ⟨slots, _, made⟩ := Option.bind_eq_some_iff.1 h
      rw [← Option.some.inj made]
    · cases h
  | array items =>
    obtain ⟨slots, _, made⟩ := Option.map_eq_some_iff.1 h
    rw [← made]
  | _ => cases h

/-- No name of a field occurs twice, and all members have names. -/
def Readable (names : List String) (members : List (Option String × Document)) : Prop :=
  members.all (fun m => m.1.isSome) = true ∧ ∀ name ∈ names, (slotOf members name).isSome = true

instance (names : List String) (members : List (Option String × Document)) :
    Decidable (Readable names members) :=
  inferInstanceAs (Decidable (_ ∧ _))

/-- The record with what the members have in place of the fields. -/
def recordOf (names : List String) (members : List (Option String × Document)) (depth : Nat) : Record :=
  ⟨names.map fun name => (name, (slotOf members name).getD .absent), depth⟩

theorem slot_recordOf {members : List (Option String × Document)} {name : String} (known : name ∈ names)
    (depth : Nat) :
    (recordOf names members depth).slot name = (slotOf members name).getD .absent := by
  rw [Record.slot, recordOf, List.lookup_graph _ known]
  rfl

/-- The slots of an object, if what is looked for can be told. -/
theorem mapM_slotOf (members : List (Option String × Document)) (names : List String) :
    (names.mapM fun name => (slotOf members name).map (name, ·)) =
      if ∀ name ∈ names, (slotOf members name).isSome = true then
        some (names.map fun name => (name, (slotOf members name).getD .absent)) else none := by
  induction names with
  | nil => rfl
  | cons name names ih =>
    rw [List.mapM_cons, ih]
    simp only [List.forall_mem_cons]
    cases here : slotOf members name with
    | none => rfl
    | some slot =>
      rw [List.map_cons, here]
      by_cases rest : ∀ name ∈ names, (slotOf members name).isSome = true
      · rw [if_pos rest, if_pos ⟨rfl, rest⟩]
        rfl
      · rw [if_neg rest, if_neg fun h => rest h.2]
        rfl

/-- A record is read from an object if it is readable. -/
theorem record_object (names : List String) (depth : Nat) (members : List (Option String × Document)) :
    record names (depth + 1) (.object members) =
      if Readable names members then some (recordOf names members depth) else none := by
  rw [record, mapM_slotOf]
  by_cases named : members.all (fun m => m.1.isSome) = true
  · by_cases found : ∀ name ∈ names, (slotOf members name).isSome = true
    · have readable : Readable names members := ⟨named, found⟩
      rw [if_pos named, if_pos found, if_pos readable]
      rfl
    · have unreadable : ¬ Readable names members := fun h => found h.2
      rw [if_pos named, if_neg found, if_neg unreadable]
      rfl
  · have unreadable : ¬ Readable names members := fun h => named h.1
    rw [if_neg named, if_neg unreadable]

/-- What stands in place of a field when the members were written in this way. -/
def slotIn (members : List (String × Document)) (name : String) : Slot :=
  match members.lookup name with
  | some d => .given d
  | none => .absent

/-- The record that has the given fields when the members were written in this way. -/
def written (names : List String) (members : List (String × Document)) (depth : Nat) : Record :=
  ⟨names.map fun name => (name, slotIn members name), depth⟩

theorem slotOf_written (distinct : (members.map Prod.fst).Nodup) (name : String) :
    slotOf (members.map fun (name, d) => (some name, d)) name = some (slotIn members name) := by
  induction members with
  | nil => rfl
  | cons m ms ih =>
    obtain ⟨n, d⟩ := m
    obtain ⟨fresh, distinct⟩ := List.nodup_cons.1 distinct
    rw [slotOf, List.map_cons, List.filter_cons]
    by_cases here : n = name
    · subst here
      -- no other member has the name
      have rest : (ms.map fun (name, d) => (some name, d)).filter (fun m => m.1 == some n) = [] := by
        rw [List.filter_eq_nil_iff]
        intro m hm same
        obtain ⟨⟨n', d'⟩, hm', rfl⟩ := List.mem_map.1 hm
        have : n' = n := by simpa using same
        subst this
        exact fresh (List.mem_map.2 ⟨_, hm', rfl⟩)
      rw [rest, if_pos (by simp), slotIn, List.lookup_cons, beq_self_eq_true]
    · have other : (name == n) = false := by simpa using Ne.symm here
      rw [if_neg (by simpa using here), slotIn, List.lookup_cons, other]
      exact ih distinct

/-- **A written record is read field by field.** -/
theorem record_written (distinct : (members.map Prod.fst).Nodup) (names : List String) (depth : Nat) :
    record names (depth + 1) (.record members) = some (written names members depth) := by
  have named : (members.map fun (name, d) => ((some name : Option String), d)).all
      (fun m => m.1.isSome) = true := by
    rw [List.all_map, List.all_eq_true]
    intro m _
    rfl
  have readable : Readable names (members.map fun (name, d) => (some name, d)) := by
    refine ⟨named, fun name _ => ?_⟩
    rw [slotOf_written distinct]
    rfl
  rw [Document.record, record_object, if_pos readable, recordOf, written]
  simp only [slotOf_written distinct, Option.getD_some]

/-- What is done with a record is done with the one that was written. -/
theorem bind_record_written {β : Type} (distinct : (members.map Prod.fst).Nodup)
    (names : List String) (depth : Nat) (f : Record → Option β) :
    (record names (depth + 1) (.record members) >>= f) = f (written names members depth) := by
  rw [record_written distinct]
  rfl

theorem slot_written (known : name ∈ names) :
    (written names members depth).slot name = slotIn members name := by
  rw [Record.slot, written, List.lookup_graph _ known]
  rfl

/-- A field that was written is read from its document. -/
theorem required_written {d : Document} (known : name ∈ names) (held : members.lookup name = some d)
    (read : Decoder α) : (written names members depth).required name read = read depth d := by
  rw [Record.required, slot_written known, slotIn, held]
  rfl

theorem required_text {s : String} (known : name ∈ names)
    (held : members.lookup name = some (.text s)) :
    (written names members depth).required name string = some s :=
  required_written known held string

/-- A text that may be `null` is read back. -/
theorem optional_text {s : Option String} (known : name ∈ names)
    (held : members.lookup name = some (.nullable .text s)) :
    (written names members depth).optional name string = some s := by
  rw [Record.optional, slot_written known, slotIn, held]
  exact nullable_text depth s

/-- A field that has a default is read from its document if it was written. -/
theorem withDefault_written {d : Document} (known : name ∈ names)
    (held : members.lookup name = some d) (default : α) (read : Decoder α) :
    (written names members depth).withDefault name default read = read depth d := by
  rw [Record.withDefault, slot_written known, slotIn, held]
  rfl

/-- A text that is written only if there is one is read back. -/
theorem withDefault_known {text : Option String} (known : name ∈ names)
    (held : members.lookup name = text.map .text) :
    (written names members depth).withDefault name none (nullable string) = some text := by
  rw [Record.withDefault, slot_written known, slotIn, held]
  cases text <;> rfl

/-- Where nothing or `null` was written, nothing is read. -/
theorem withDefault_missing {read : Decoder α} (known : name ∈ names)
    (missing : ∀ d, members.lookup name = some d → d = .null) :
    (written names members depth).withDefault name none (nullable read) = some none := by
  rw [Record.withDefault, slot_written known, slotIn]
  cases held : members.lookup name with
  | none => rfl
  | some d =>
    rw [missing d held]
    rfl

end Decoder

end Governance.Json
