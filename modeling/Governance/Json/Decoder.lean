import Governance.Json.Value

/-!
# Decoding documents

A decoder turns a document into a value of some type, given how deep arrays and objects may still nest.
Records come as objects or as arrays: in an object the members may stand in any order, unknown ones
are passed over whatever they hold, and no known one may occur twice; in an array the fields stand in
the order of their declaration. A field may be required, optional (then `null` or, in an object,
nothing stands for its absence) or have a default (then it may be left out in both forms). Main
statements: a record does not depend on the order of its members, nor on members with unknown names
(`slotOf_perm`, `slotOf_unknown`).
-/

namespace Governance.Json

/-- How a type is read: from the depth that is still allowed and a document. -/
abbrev Decoder (α : Type) := Nat → Document → Option α

namespace Decoder

/-- What a text spells. -/
def ofText? (read : Decoder α) (text : String) : Option α := do
  read Value.deepest (← Document.parse text.toList)

/-! ## Single values -/

/-- A text. -/
def string : Decoder String
  | _, .string s => s
  | _, _ => none

/-- A natural number below `bound`, spelled as an integer. -/
def natBelow (bound : Nat) : Decoder Nat
  | _, .number n => n.natBelow bound
  | _, _ => none

/-- A 64-bit word. -/
def uint64 : Decoder UInt64 := fun depth d =>
  (natBelow UInt64.size depth d).map UInt64.ofNat

/-- A number of any spelling, as a double. -/
def double : Decoder Double
  | _, .number n => (Number.ofNumeral? n).map Number.toDouble
  | _, _ => none

/-- An integer from `-2 ^ 63` to `2 ^ 63 - 1`. -/
def int64 : Decoder Int
  | _, .number n =>
    match Number.ofNumeral? n with
    | some (.integer i) => if -9223372036854775808 ≤ i ∧ i < 9223372036854775808 then some i else none
    | _ => none
  | _, _ => none

/-- Any JSON. -/
def value : Decoder Value :=
  Value.ofDocument?

/-- Something, or `null` for nothing. -/
def nullable (read : Decoder α) : Decoder (Option α)
  | _, .null => some none
  | depth, d => (read depth d).map some

/-- The decoded value put through a check. -/
def filterMap (f : α → Option β) (read : Decoder α) : Decoder β := fun depth d =>
  (read depth d).bind f

/-! ## Arrays, maps and alternatives -/

/-- An array of any length. -/
def list (read : Decoder α) : Decoder (List α)
  | depth + 1, .array items => items.mapM (read depth)
  | _, _ => none

/-- An array of two. -/
def pair (first : Decoder α) (second : Decoder β) : Decoder (α × β)
  | depth + 1, .array [a, b] => do return (← first depth a, ← second depth b)
  | _, _ => none

/-- The members of an object, each with its name. -/
def namedMembers (read : Document → Option α) :
    List (Option String × Document) → Option (List (String × α))
  | [] => some []
  | (name, d) :: ms => do return (← name, ← read d) :: (← namedMembers read ms)

/-- An object as a map; of two members with one name the later one stays. -/
def map (read : Decoder α) : Decoder (StringMap α)
  | depth + 1, .object members => (namedMembers (read depth) members).map StringMap.ofList
  | _, _ => none

/-- An alternative: the string of its name, or an object whose only member has that name and holds the
payload. The payload comes with the depth allowed in it. -/
def alternative : Nat → Document → Option (String × Option (Nat × Document))
  | _, .string (some name) => some (name, none)
  | depth + 1, .object [(some name, payload)] => some (name, some (depth, payload))
  | _, _ => none

/-- One of a list of names. An object may hold the name too, with `null` as the payload. -/
def oneOf (names : List (String × α)) : Decoder α := fun depth d => do
  match ← alternative depth d with
  | (name, none) | (name, some (_, .null)) => names.lookup name
  | _ => none

/-! ## Records -/

/-- What a record has in place of a field. -/
inductive Slot
  /-- A document. -/
  | given (d : Document)
  /-- Nothing: the object has no member of that name. -/
  | absent
  /-- Nothing: the array ends before the field. -/
  | cut
  deriving Inhabited

/-- The fields of a record, and the depth allowed in them. -/
structure Record where
  /-- What stands in place of each field. -/
  slots : List (String × Slot)
  /-- How deep arrays and objects may nest in the fields. -/
  depth : Nat

/-- What the members of an object have in place of a field; `none` if there are several. -/
def slotOf (members : List (Option String × Document)) (name : String) : Option Slot :=
  match members.filter fun m => m.1 == some name with
  | [] => some .absent
  | [m] => some (.given m.2)
  | _ => none

/-- The slots of a list of items, field by field. -/
def slotsOfItems : List String → List Document → Option (List (String × Slot))
  | [], [] => some []
  | [], _ :: _ => none
  | name :: names, [] => (slotsOfItems names []).map ((name, .cut) :: ·)
  | name :: names, d :: ds => (slotsOfItems names ds).map ((name, .given d) :: ·)

/-- The record with the given field names that a document spells. -/
def record (names : List String) : Decoder Record
  | depth + 1, .object members =>
    if members.all fun m => m.1.isSome then do
      let slots ← names.mapM fun name => (slotOf members name).map (name, ·)
      return ⟨slots, depth⟩
    else none
  | depth + 1, .array items => (slotsOfItems names items).map (⟨·, depth⟩)
  | _, _ => none

/-- A record without members of other names than the given ones. -/
def closedRecord (names : List String) : Decoder Record
  | depth, .object members =>
    if members.all fun m => m.1.any names.contains then record names depth (.object members) else none
  | depth, d => record names depth d

namespace Record

/-- What the record has in place of a field. -/
def slot (r : Record) (name : String) : Slot :=
  (r.slots.lookup name).getD .absent

/-- A field that has to be there. -/
def required (r : Record) (name : String) (read : Decoder α) : Option α :=
  match r.slot name with
  | .given d => read r.depth d
  | _ => none

/-- A field that may be `null`, or absent from an object. -/
def optional (r : Record) (name : String) (read : Decoder α) : Option (Option α) :=
  match r.slot name with
  | .given d => nullable read r.depth d
  | .absent => some none
  | .cut => none

/-- A field that may be left out and then has a default. -/
def withDefault (r : Record) (name : String) (default : α) (read : Decoder α) : Option α :=
  match r.slot name with
  | .given d => read r.depth d
  | _ => some default

end Record

/-! ## Order and unknown members -/

/-- Whether a field can be read from an object does not depend on the order of the members. -/
theorem slotOf_perm {ms ns : List (Option String × Document)} (h : ms.Perm ns) (name : String) :
    slotOf ms name = slotOf ns name := by
  have hp := h.filter fun m => m.1 == some name
  unfold slotOf
  revert hp
  generalize (ms.filter fun m => m.1 == some name) = fs
  generalize (ns.filter fun m => m.1 == some name) = gs
  intro hp
  match fs, gs, hp with
  | [], gs, hp => rw [hp.nil_eq]
  | [m], gs, hp => rw [List.perm_singleton.1 hp.symm]
  | a :: b :: fs, [], hp => exact absurd hp.length_eq (by simp)
  | a :: b :: fs, [c], hp => exact absurd hp.length_eq (by simp)
  | a :: b :: fs, c :: d :: gs, _ => rfl

/-- Members with another name do not matter to a field. -/
theorem slotOf_unknown {ms ns : List (Option String × Document)} {name : String}
    (h : ∀ m ∈ ns, m.1 ≠ some name) : slotOf (ms ++ ns) name = slotOf ms name := by
  have : ns.filter (fun m => m.1 == some name) = [] := by
    rw [List.filter_eq_nil_iff]
    intro m hm
    simpa using h m hm
  rw [slotOf, slotOf, List.filter_append, this, List.append_nil]

end Decoder

end Governance.Json
