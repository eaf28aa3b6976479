import Governance.Proofs.Json.Records

/-!
# Where a document stands

The deeper a document stands in a text, the less deep it may nest itself. As long as it is a value where it stands
(`Document.Within`), nothing else depends on this: a decoder is steady if it reads such a document alike wherever
that many levels, or more, are allowed. Decoders of single values do not look at the depth, and lists, maps,
alternatives and records of steady decoders are steady (`steady_list`, `steady_map`, `alternative_deeper`,
`steady_record`).
-/

namespace Governance.Json

namespace Document

/-- The document is a value where arrays and objects may nest `allowed` deep. -/
def Within (allowed : Nat) (d : Document) : Prop :=
  ∃ v, Value.ofDocument? allowed d = some v

theorem items_of_ofItems? {allowed : Nat} {items : List Document} {vs : List Value}
    (h : Value.ofItems? allowed items = some vs) : ∀ d ∈ items, Within allowed d := by
  induction items generalizing vs with
  | nil => exact fun _ hd => absurd hd List.not_mem_nil
  | cons d items ih =>
    obtain ⟨v, first, h⟩ := Option.bind_eq_some_iff.1 h
    obtain ⟨ws, rest, _⟩ := Option.bind_eq_some_iff.1 h
    exact List.forall_mem_cons.2 ⟨⟨v, first⟩, ih rest⟩

/-- Members can be put into entries if each of them has a name and is a value. -/
theorem exists_ofMembers?_iff {allowed : Nat} {members : List (Option String × Document)}
    (done : List (String × Value)) : (∃ read, Value.ofMembers? allowed members done = some read) ↔
      ∀ m ∈ members, m.1.isSome = true ∧ Within allowed m.2 := by
  induction members generalizing done with
  | nil => exact iff_of_true ⟨done, rfl⟩ nofun
  | cons m members ih =>
    obtain ⟨name, d⟩ := m
    rw [List.forall_mem_cons]
    constructor
    · intro ⟨read, h⟩
      obtain ⟨name, named, h⟩ := Option.bind_eq_some_iff.1 h
      obtain ⟨v, first, rest⟩ := Option.bind_eq_some_iff.1 h
      exact ⟨⟨Option.isSome_iff_exists.2 ⟨name, named⟩, v, first⟩, (ih _).1 ⟨read, rest⟩⟩
    · intro ⟨⟨named, v, first⟩, rest⟩
      obtain ⟨name, rfl⟩ := Option.isSome_iff_exists.1 named
      obtain ⟨read, rest⟩ := (ih _).2 rest
      refine ⟨read, ?_⟩
      rw [Value.ofMembers?, first]
      exact rest

/-- An object is a value if its members have names and are values one level deeper. -/
theorem within_object_iff {allowed : Nat} {members : List (Option String × Document)} :
    Within (allowed + 1) (.object members) ↔ ∀ m ∈ members, m.1.isSome = true ∧ Within allowed m.2 := by
  rw [← exists_ofMembers?_iff []]
  constructor
  · intro ⟨v, h⟩
    obtain ⟨read, h, _⟩ := Option.map_eq_some_iff.1 h
    exact ⟨read, h⟩
  · intro ⟨read, h⟩
    exact ⟨_, Option.map_eq_some_iff.2 ⟨read, h, rfl⟩⟩

/-- The items of an array are one level deeper, wherever the array may stand. -/
theorem Within.items {allowed more : Nat} {items : List Document}
    (h : Within allowed (.array items)) (le : allowed ≤ more) :
    ∃ inner inner', allowed = inner + 1 ∧ more = inner' + 1 ∧ inner ≤ inner' ∧
      ∀ d ∈ items, Within inner d := by
  obtain ⟨v, read⟩ := h
  cases allowed with
  | zero => cases read
  | succ inner =>
    obtain ⟨vs, read, _⟩ := Option.map_eq_some_iff.1 read
    exact ⟨inner, more - 1, rfl, by omega, by omega, items_of_ofItems? read⟩

/-- The members of an object are one level deeper, wherever the object may stand. -/
theorem Within.members {allowed more : Nat} {members : List (Option String × Document)}
    (h : Within allowed (.object members)) (le : allowed ≤ more) :
    ∃ inner inner', allowed = inner + 1 ∧ more = inner' + 1 ∧ inner ≤ inner' ∧
      ∀ m ∈ members, Within inner m.2 := by
  cases allowed with
  | zero =>
    obtain ⟨v, read⟩ := h
    cases read
  | succ inner =>
    exact ⟨inner, more - 1, rfl, by omega, by omega, fun m hm => (within_object_iff.1 h m hm).2⟩

end Document

open Document (Within)

namespace Value

mutual

/-- A value stays the same where more is allowed. -/
theorem ofDocument?_deeper : ∀ (d : Document) {allowed more : Nat} {v : Value}, allowed ≤ more →
    ofDocument? allowed d = some v → ofDocument? more d = some v
  | .null, _, _, _, _, h | .bool _, _, _, _, _, h | .number _, _, _, _, _, h
  | .string _, _, _, _, _, h => by
    rw [ofDocument?] at h ⊢
    exact h
  | .array items, 0, _, _, _, h | .object members, 0, _, _, _, h => by cases h
  | .array items, allowed + 1, 0, _, le, _ | .object members, allowed + 1, 0, _, le, _ =>
    absurd le (Nat.not_succ_le_zero allowed)
  | .array items, allowed + 1, more + 1, _, le, h => by
    obtain ⟨vs, read, made⟩ := Option.map_eq_some_iff.1 h
    have deeper := ofItems?_deeper items (Nat.le_of_succ_le_succ le) read
    exact Option.map_eq_some_iff.2 ⟨vs, deeper, made⟩
  | .object members, allowed + 1, more + 1, _, le, h => by
    obtain ⟨ms, read, made⟩ := Option.map_eq_some_iff.1 h
    have deeper := ofMembers?_deeper members [] (Nat.le_of_succ_le_succ le) read
    exact Option.map_eq_some_iff.2 ⟨ms, deeper, made⟩

theorem ofItems?_deeper : ∀ (ds : List Document) {allowed more : Nat} {vs : List Value},
    allowed ≤ more → ofItems? allowed ds = some vs → ofItems? more ds = some vs
  | [], _, _, _, _, h => h
  | d :: ds, _, _, _, le, h => by
    obtain ⟨v, first, h⟩ := Option.bind_eq_some_iff.1 h
    obtain ⟨vs, rest, made⟩ := Option.bind_eq_some_iff.1 h
    refine Option.bind_eq_some_iff.2 ⟨v, ofDocument?_deeper d le first, ?_⟩
    exact Option.bind_eq_some_iff.2 ⟨vs, ofItems?_deeper ds le rest, made⟩

theorem ofMembers?_deeper : ∀ (ms : List (Option String × Document)) {allowed more : Nat}
    (done : List (String × Value)) {read : List (String × Value)}, allowed ≤ more →
    ofMembers? allowed ms done = some read → ofMembers? more ms done = some read
  | [], _, _, _, _, _, h => h
  | (name, d) :: ms, _, _, done, _, le, h => by
    obtain ⟨name, named, h⟩ := Option.bind_eq_some_iff.1 h
    obtain ⟨v, first, rest⟩ := Option.bind_eq_some_iff.1 h
    refine Option.bind_eq_some_iff.2 ⟨name, named, ?_⟩
    refine Option.bind_eq_some_iff.2 ⟨v, ofDocument?_deeper d le first, ?_⟩
    exact ofMembers?_deeper ms _ le rest

end

end Value

namespace Decoder

variable {α : Type}

/-- A document that is a value within a depth is read alike wherever more is allowed. -/
def Steady (read : Decoder α) : Prop :=
  ∀ {allowed more : Nat} {d : Document}, allowed ≤ more → Within allowed d →
    read allowed d = read more d

/-! ## Single values -/

theorem steady_string : Steady string := by
  intro allowed more d _ _
  cases d <;> rfl

theorem steady_uint64 : Steady uint64 := by
  intro allowed more d _ _
  cases d <;> rfl

theorem steady_value : Steady value := by
  intro allowed more d le within
  obtain ⟨v, read⟩ := within
  rw [value, read, Value.ofDocument?_deeper d le read]

theorem steady_nullable {read : Decoder α} (steady : Steady read) : Steady (nullable read) := by
  intro allowed more d le within
  cases d with
  | null => rfl
  | _ => exact congrArg (Option.map some) (steady le within)

/-! ## Arrays, maps and alternatives -/

/-- Items are read alike if each of them is. -/
theorem mapM_congr {items : List Document} {read read' : Document → Option α}
    (each : ∀ d ∈ items, read d = read' d) : items.mapM read = items.mapM read' := by
  induction items with
  | nil => rfl
  | cons d items ih =>
    obtain ⟨first, rest⟩ := List.forall_mem_cons.1 each
    rw [List.mapM_cons, List.mapM_cons, first, ih rest]

/-- Named members are read alike if each of them is. -/
theorem namedMembers_congr {members : List (Option String × Document)}
    {read read' : Document → Option α} (each : ∀ m ∈ members, read m.2 = read' m.2) :
    namedMembers read members = namedMembers read' members := by
  induction members with
  | nil => rfl
  | cons m members ih =>
    obtain ⟨name, d⟩ := m
    obtain ⟨first, rest⟩ := List.forall_mem_cons.1 each
    rw [namedMembers, namedMembers, ih rest, first]

theorem steady_list {read : Decoder α} (steady : Steady read) : Steady (list read) := by
  intro allowed more d le within
  cases d with
  | array items =>
    obtain ⟨inner, inner', rfl, rfl, le, items_within⟩ := within.items le
    exact mapM_congr fun d hd => steady le (items_within d hd)
  | _ => cases allowed <;> cases more <;> rfl

theorem steady_map {read : Decoder α} (steady : Steady read) : Steady (map read) := by
  intro allowed more d le within
  cases d with
  | object members =>
    obtain ⟨inner, inner', rfl, rfl, le, members_within⟩ := within.members le
    exact congrArg (Option.map StringMap.ofList)
      (namedMembers_congr fun m hm => steady le (members_within m hm))
  | _ => cases allowed <;> cases more <;> rfl

/-- An alternative has the same name and payload where more is allowed, and the payload is a value. -/
theorem alternative_deeper {allowed more : Nat} {d : Document} (le : allowed ≤ more)
    (within : Within allowed d) :
    (alternative allowed d = none ∧ alternative more d = none) ∨
    (∃ name, alternative allowed d = some (name, none) ∧ alternative more d = some (name, none)) ∨
    ∃ name inner inner' payload, inner ≤ inner' ∧ Within inner payload ∧
      alternative allowed d = some (name, some (inner, payload)) ∧
      alternative more d = some (name, some (inner', payload)) := by
  cases d with
  | string s =>
    cases s with
    | none => left; cases allowed <;> cases more <;> exact ⟨rfl, rfl⟩
    | some name => exact .inr (.inl ⟨name, by cases allowed <;> rfl, by cases more <;> rfl⟩)
  | object members =>
    obtain ⟨inner, inner', rfl, rfl, le, members_within⟩ := within.members le
    rcases members with _ | ⟨⟨_ | name, payload⟩, _ | ⟨m, members⟩⟩
    · exact .inl ⟨rfl, rfl⟩
    · exact .inl ⟨rfl, rfl⟩
    · exact .inl ⟨rfl, rfl⟩
    · have payload_within := members_within _ List.mem_cons_self
      exact .inr (.inr ⟨name, inner, inner', payload, le, payload_within, rfl, rfl⟩)
    · exact .inl ⟨rfl, rfl⟩
  | _ => left; cases allowed <;> cases more <;> exact ⟨rfl, rfl⟩

/-! ## Records -/

/-- Two slots hold nothing in the same way, or documents of which the same is read. -/
inductive Slot.Alike (f f' : Document → Option α) : Slot → Slot → Prop
  | given {d d' : Document} (same : f d = f' d') : Alike f f' (.given d) (.given d')
  | absent : Alike f f' .absent .absent
  | cut : Alike f f' .cut .cut

theorem Slot.Alike.refl (f : Document → Option α) (slot : Slot) : Alike f f slot slot := by
  cases slot with
  | given d => exact .given rfl
  | absent => exact .absent
  | cut => exact .cut

section

variable {r r' : Record} {name : String} {read : Decoder α}

/-- A field is read alike from two records if its slots are alike. -/
theorem Record.required_congr (alike : Slot.Alike (read r.depth) (read r'.depth) (r.slot name) (r'.slot name)) :
    r.required name read = r'.required name read := by
  unfold Record.required
  generalize r.slot name = s, r'.slot name = s' at alike ⊢
  cases alike with
  | given same => exact same
  | absent => rfl
  | cut => rfl

theorem Record.withDefault_congr (default : α)
    (alike : Slot.Alike (read r.depth) (read r'.depth) (r.slot name) (r'.slot name)) :
    r.withDefault name default read = r'.withDefault name default read := by
  unfold Record.withDefault
  generalize r.slot name = s, r'.slot name = s' at alike ⊢
  cases alike with
  | given same => exact same
  | absent => rfl
  | cut => rfl

theorem Record.optional_congr
    (alike : Slot.Alike (nullable read r.depth) (nullable read r'.depth) (r.slot name) (r'.slot name)) :
    r.optional name read = r'.optional name read := by
  unfold Record.optional
  generalize r.slot name = s, r'.slot name = s' at alike ⊢
  cases alike with
  | given same => exact same
  | absent => rfl
  | cut => rfl

end

/-- A record as it is read where more is allowed: the same fields, all of which are values. -/
structure Record.Deeper (r r' : Record) : Prop where
  slots : r'.slots = r.slots
  depth : r.depth ≤ r'.depth
  within : ∀ name d, r.slot name = .given d → Within r.depth d

namespace Record.Deeper

variable {r r' : Record} {read : Decoder α}

theorem alike (h : r.Deeper r') (name : String) (steady : Steady read) :
    Slot.Alike (read r.depth) (read r'.depth) (r.slot name) (r'.slot name) := by
  have same : r'.slot name = r.slot name := by
    rw [Record.slot, h.slots, Record.slot]
  rw [same]
  cases here : r.slot name with
  | given d => exact .given (steady h.depth (h.within name d here))
  | absent => exact .absent
  | cut => exact .cut

theorem required (h : r.Deeper r') (name : String) (steady : Steady read) :
    r.required name read = r'.required name read :=
  Record.required_congr (h.alike name steady)

theorem withDefault (h : r.Deeper r') (name : String) (default : α) (steady : Steady read) :
    r.withDefault name default read = r'.withDefault name default read :=
  Record.withDefault_congr default (h.alike name steady)

theorem optional (h : r.Deeper r') (name : String) (steady : Steady read) :
    r.optional name read = r'.optional name read :=
  Record.optional_congr (h.alike name (steady_nullable steady))

end Record.Deeper

/-- What stands in place of a field of an object is one of its members. -/
theorem mem_of_slotOf {members : List (Option String × Document)} {name : String} {d : Document}
    (h : slotOf members name = some (.given d)) : (some name, d) ∈ members := by
  rw [slotOf] at h
  split at h
  · cases h
  · next m only =>
    cases h
    have hm : m ∈ members.filter fun m => m.1 == some name := by
      rw [only]
      exact List.mem_singleton_self m
    obtain ⟨here, named⟩ := List.mem_filter.1 hm
    rw [← eq_of_beq named]
    exact here
  · cases h

/-- What stands in place of a field of an array is one of its items. -/
theorem mem_of_slotsOfItems {names : List String} {items : List Document}
    {slots : List (String × Slot)} (h : slotsOfItems names items = some slots) {name : String}
    {d : Document} (found : (name, Slot.given d) ∈ slots) : d ∈ items := by
  induction names generalizing items slots with
  | nil =>
    cases items with
    | nil => cases h; cases found
    | cons d items => cases h
  | cons other names ih =>
    cases items with
    | nil =>
      obtain ⟨rest, read, rfl⟩ := Option.map_eq_some_iff.1 h
      rcases List.mem_cons.1 found with same | later
      · cases same
      · exact absurd (ih read later) List.not_mem_nil
    | cons e items =>
      obtain ⟨rest, read, rfl⟩ := Option.map_eq_some_iff.1 h
      rcases List.mem_cons.1 found with same | later
      · cases same
        exact List.mem_cons_self
      · exact List.mem_cons_of_mem _ (ih read later)

/-- A field that is given is among the slots. -/
theorem Record.mem_of_slot {r : Record} {name : String} {d : Document}
    (h : r.slot name = .given d) : (name, Slot.given d) ∈ r.slots := by
  rw [slot] at h
  cases found : r.slots.lookup name with
  | none =>
    rw [found] at h
    cases h
  | some s =>
    rw [found, Option.getD_some] at h
    obtain ⟨before, after, split, _⟩ := List.lookup_eq_some_iff.1 found
    rw [split, h]
    exact List.mem_append_right _ List.mem_cons_self

/-- A record is read alike where more is allowed. -/
theorem record_deeper (names : List String) {allowed more : Nat} {d : Document} (le : allowed ≤ more)
    (within : Within allowed d) :
    (record names allowed d = none ∧ record names more d = none) ∨
      ∃ r r', record names allowed d = some r ∧ record names more d = some r' ∧ r.Deeper r' := by
  cases d with
  | object members =>
    obtain ⟨inner, inner', rfl, rfl, le, members_within⟩ := within.members le
    rw [record_object, record_object]
    by_cases readable : Readable names members
    · rw [if_pos readable, if_pos readable]
      refine .inr ⟨_, _, rfl, rfl, rfl, le, ?_⟩
      intro name d given
      obtain ⟨name', known, same⟩ := List.mem_map.1 (Record.mem_of_slot given)
      obtain ⟨slot, found⟩ := Option.isSome_iff_exists.1 (readable.2 name' known)
      rw [found, Option.getD_some] at same
      cases same
      exact members_within _ (mem_of_slotOf found)
    · rw [if_neg readable, if_neg readable]
      exact .inl ⟨rfl, rfl⟩
  | array items =>
    obtain ⟨inner, inner', rfl, rfl, le, items_within⟩ := within.items le
    rw [record, record]
    cases read : slotsOfItems names items with
    | none => exact .inl ⟨rfl, rfl⟩
    | some slots =>
      refine .inr ⟨⟨slots, inner⟩, ⟨slots, inner'⟩, rfl, rfl, rfl, le, ?_⟩
      intro name d given
      exact items_within _ (mem_of_slotsOfItems read (Record.mem_of_slot given))
  | _ => left; cases allowed <;> cases more <;> exact ⟨rfl, rfl⟩

/-- What is made of the fields of a record is made of them alike if the fields are read alike. -/
theorem steady_record (names : List String) {make : Record → Option α}
    (alike : ∀ r r', r.Deeper r' → make r = make r') :
    Steady fun depth d => record names depth d >>= make := by
  intro allowed more d le within
  dsimp only
  rcases record_deeper names le within with ⟨here, there⟩ | ⟨r, r', here, there, deeper⟩
  · rw [here, there]
  · rw [here, there]
    exact alike r r' deeper

end Decoder

end Governance.Json
