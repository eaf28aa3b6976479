import Governance.Proofs.Json.Depth
import Mathlib.Data.List.Forall2

/-!
# Objects that grow

An object grows if its members change places, if members come to it whose names are not among those that are looked
for, and if the documents of some members grow themselves (`Document.Grows`). What is looked for under a name is
then found as before, or has grown as is told for this name (`slotOf_grown`). So a record is read alike
from the object that grew, if the fields that grew are read alike (`read_grown`), and an object that was
free JSON stays so (`Grows.within`).
-/

namespace Governance.Json

variable {names : List String} {allowed : Nat} {inner : String → Document → Document → Prop}

namespace Document

/-- The member keeps its name, and its document stays or grows as `inner` tells. -/
def Kept (inner : String → Document → Document → Prop) (m n : Option String × Document) : Prop :=
  m.1 = n.1 ∧ (m.2 = n.2 ∨ ∃ name, m.1 = some name ∧ inner name m.2 n.2)

/-- The member has another name than the given ones, and is a value. -/
def Added (names : List String) (allowed : Nat) (m : Option String × Document) : Prop :=
  ∃ name, m.1 = some name ∧ name ∉ names ∧ Within allowed m.2

/-- Members grow: each of them is kept, others are added, and all of them change places. What is added may nest
`allowed` deep. -/
inductive MembersGrow (names : List String) (allowed : Nat) (inner : String → Document → Document → Prop)
    (members grown : List (Option String × Document)) : Prop
  | intro (kept added : List (Option String × Document)) (same : List.Forall₂ (Kept inner) members kept)
      (unknown : ∀ m ∈ added, Added names allowed m) (order : (kept ++ added).Perm grown)

/-- An object grows if its members do. -/
inductive Grows (names : List String) (allowed : Nat) (inner : String → Document → Document → Prop) :
    Document → Document → Prop
  | object {members grown : List (Option String × Document)} (h : MembersGrow names allowed inner members grown) :
      Grows names allowed inner (.object members) (.object grown)

/-- No member grows. -/
def Still (_ : String) (_ _ : Document) : Prop :=
  False

theorem not_still (name : String) (d d' : Document) : ¬ Still name d d' := id

/-- A record grows if it is written with other members besides. -/
theorem Grows.record {members grown : List (String × Document)} (kept added : List (String × Document))
    (same : List.Forall₂ (fun m n => m.1 = n.1 ∧ (m.2 = n.2 ∨ inner m.1 m.2 n.2)) members kept)
    (unknown : ∀ m ∈ added, m.1 ∉ names ∧ Within allowed m.2) (order : (kept ++ added).Perm grown) :
    Grows names allowed inner (.record members) (.record grown) := by
  refine .object (.intro (kept.map fun m => (some m.1, m.2)) (added.map fun m => (some m.1, m.2)) ?_ ?_ ?_)
  · rw [List.forall₂_map_left_iff, List.forall₂_map_right_iff]
    refine same.imp fun m n keeps => ⟨congrArg some keeps.1, keeps.2.imp_right fun grew => ?_⟩
    exact ⟨m.1, rfl, grew⟩
  · intro m hm
    obtain ⟨⟨name, d⟩, here, rfl⟩ := List.mem_map.1 hm
    exact ⟨name, rfl, unknown _ here⟩
  · rw [← List.map_append]
    exact order.map _

/-- The members that are kept have names if they had names. -/
theorem all_kept {members kept : List (Option String × Document)}
    (same : List.Forall₂ (Kept inner) members kept) :
    kept.all (fun m => m.1.isSome) = members.all fun m => m.1.isSome := by
  induction same with
  | nil => rfl
  | cons first _ ih => rw [List.all_cons, List.all_cons, ih, first.1]

/-- Members that have grown have names if they had names. -/
theorem MembersGrow.named {members grown : List (Option String × Document)}
    (h : MembersGrow names allowed inner members grown) :
    grown.all (fun m => m.1.isSome) = members.all fun m => m.1.isSome := by
  obtain ⟨kept, added, same, unknown, order⟩ := h
  have named : added.all (fun m => m.1.isSome) = true := by
    rw [List.all_eq_true]
    intro m hm
    obtain ⟨name, here, _⟩ := unknown m hm
    rw [here]
    rfl
  rw [← order.all_eq, List.all_append, named, Bool.and_true, all_kept same]

/-- A member that is there after members were kept was one of them. -/
theorem exists_kept {members kept : List (Option String × Document)}
    (same : List.Forall₂ (Kept inner) members kept) {n : Option String × Document} (hn : n ∈ kept) :
    ∃ m ∈ members, Kept inner m n := by
  induction same with
  | nil => cases hn
  | @cons m k members kept first _ ih =>
    rcases List.mem_cons.1 hn with rfl | later
    · exact ⟨m, List.mem_cons_self, first⟩
    · obtain ⟨m', hm, stays⟩ := ih later
      exact ⟨m', List.mem_cons_of_mem _ hm, stays⟩

/-- An object that is a value is one still when it has grown. -/
theorem Grows.within {d d' : Document} (grows : Grows names allowed inner d d')
    (keeps : ∀ name d d', inner name d d' → Within allowed d → Within allowed d')
    (h : Within (allowed + 1) d) : Within (allowed + 1) d' := by
  obtain ⟨kept, added, same, unknown, order⟩ := grows
  rw [within_object_iff] at h ⊢
  intro n hn
  rcases List.mem_append.1 (order.mem_iff.2 hn) with old | new
  · obtain ⟨m, hm, name, stays⟩ := exists_kept same old
    obtain ⟨named, valid⟩ := h m hm
    refine ⟨name ▸ named, ?_⟩
    rcases stays with stays | ⟨name, _, grew⟩
    · exact stays ▸ valid
    · exact keeps name m.2 n.2 grew valid
  · obtain ⟨name, here, _, within⟩ := unknown n new
    exact ⟨by rw [here]; rfl, within⟩

end Document

namespace Decoder

open Document (Kept MembersGrow Grows)

/-! ## Fields of objects that grow -/

/-- What is found under a name is found still if the members are kept, or has grown. -/
theorem slotOf_kept {members kept : List (Option String × Document)}
    (same : List.Forall₂ (Kept inner) members kept) (name : String) :
    slotOf kept name = slotOf members name ∨ ∃ d d', slotOf members name = some (.given d) ∧
      slotOf kept name = some (.given d') ∧ inner name d d' := by
  have found : List.Forall₂ (Kept inner) (members.filter fun m => m.1 == some name)
      (kept.filter fun m => m.1 == some name) := by
    refine List.rel_filter ?_ same
    intro m n stays
    show (m.1 == some name) = true ↔ (n.1 == some name) = true
    rw [stays.1]
  have named : ∀ m ∈ members.filter fun m => m.1 == some name, m.1 = some name := by
    intro m hm
    exact eq_of_beq (List.mem_filter.1 hm).2
  unfold slotOf
  revert found named
  generalize (members.filter fun m => m.1 == some name) = ms
  generalize (kept.filter fun m => m.1 == some name) = ks
  intro found named
  cases found with
  | nil => exact .inl rfl
  | @cons m k ms ks first rest =>
    cases rest with
    | nil =>
      obtain ⟨_, stays | ⟨other, here, grows⟩⟩ := first
      · left
        show some (Slot.given k.2) = some (Slot.given m.2)
        rw [stays]
      · rw [named m List.mem_cons_self] at here
        cases here
        exact .inr ⟨m.2, k.2, rfl, rfl, grows⟩
    | cons => exact .inl rfl

/-- What is found under a known name is found still, or has grown. -/
theorem slotOf_grown {members grown : List (Option String × Document)}
    (h : MembersGrow names allowed inner members grown) {name : String} (known : name ∈ names) :
    slotOf grown name = slotOf members name ∨ ∃ d d', slotOf members name = some (.given d) ∧
      slotOf grown name = some (.given d') ∧ inner name d d' := by
  obtain ⟨kept, added, same, unknown, order⟩ := h
  have other : ∀ m ∈ added, m.1 ≠ some name := by
    intro m hm here
    obtain ⟨name', named, fresh, _⟩ := unknown m hm
    rw [named] at here
    cases here
    exact fresh known
  rw [← slotOf_perm order, slotOf_unknown other]
  exact slotOf_kept same name

/-- An object that has grown is readable if it was before. -/
theorem readable_grown {members grown : List (Option String × Document)}
    (h : MembersGrow names allowed inner members grown) : Readable names grown ↔ Readable names members := by
  unfold Readable
  rw [h.named]
  refine and_congr_right fun _ => forall₂_congr fun name known => ?_
  rcases slotOf_grown h known with stays | ⟨d, d', here, there, _⟩
  · rw [stays]
  · rw [here, there]
    rfl

/-- A record whose known fields are the same or have grown. -/
structure Record.Grown (names : List String) (inner : String → Document → Document → Prop)
    (r r' : Record) : Prop where
  depth : r'.depth = r.depth
  slot : ∀ name ∈ names, r'.slot name = r.slot name ∨
    ∃ d d', r.slot name = .given d ∧ r'.slot name = .given d' ∧ inner name d d'

namespace Record.Grown

variable {α : Type} {r r' : Record} {read : Decoder α} {name : String}

/-- A field is read alike if what it grows into is. -/
theorem required (h : r.Grown names inner r') (known : name ∈ names)
    (alike : ∀ d d', inner name d d' → read r.depth d = read r.depth d') :
    r.required name read = r'.required name read := by
  refine Record.required_congr ?_
  rw [h.depth]
  rcases h.slot name known with same | ⟨d, d', here, there, grew⟩
  · rw [same]
    exact .refl _ _
  · rw [here, there]
    exact .given (alike d d' grew)

/-- A field that does not grow holds what it held. -/
theorem alike_still (h : r.Grown names inner r') (known : name ∈ names) (still : ∀ d d', ¬ inner name d d')
    (read : Decoder α) : Slot.Alike (read r.depth) (read r'.depth) (r.slot name) (r'.slot name) := by
  rcases h.slot name known with same | ⟨d, d', _, _, grew⟩
  · rw [same, h.depth]
    exact .refl _ _
  · exact absurd grew (still d d')

theorem required_still (h : r.Grown names inner r') (known : name ∈ names)
    (still : ∀ d d', ¬ inner name d d') (read : Decoder α) :
    r.required name read = r'.required name read :=
  Record.required_congr (h.alike_still known still read)

theorem optional_still (h : r.Grown names inner r') (known : name ∈ names)
    (still : ∀ d d', ¬ inner name d d') (read : Decoder α) :
    r.optional name read = r'.optional name read :=
  Record.optional_congr (h.alike_still known still (nullable read))

theorem withDefault_still (h : r.Grown names inner r') (known : name ∈ names)
    (still : ∀ d d', ¬ inner name d d') (default : α) (read : Decoder α) :
    r.withDefault name default read = r'.withDefault name default read :=
  Record.withDefault_congr default (h.alike_still known still read)

end Record.Grown

/-- A record is read alike from an object that has grown. -/
theorem record_grown {d d' : Document} (grows : Grows names allowed inner d d') (depth : Nat) :
    (record names depth d = none ∧ record names depth d' = none) ∨
      ∃ r r', record names depth d = some r ∧ record names depth d' = some r' ∧
        r.Grown names inner r' := by
  obtain @⟨members, grown, h⟩ := grows
  cases depth with
  | zero => exact .inl ⟨rfl, rfl⟩
  | succ depth =>
    rw [record_object, record_object]
    by_cases readable : Readable names members
    · rw [if_pos readable, if_pos ((readable_grown h).2 readable)]
      refine .inr ⟨_, _, rfl, rfl, rfl, fun name known => ?_⟩
      rw [slot_recordOf known, slot_recordOf known]
      rcases slotOf_grown h known with stays | ⟨d, d', here, there, grew⟩
      · exact .inl (by rw [stays])
      · exact .inr ⟨d, d', by rw [here]; rfl, by rw [there]; rfl, grew⟩
    · rw [if_neg readable, if_neg fun still => readable ((readable_grown h).1 still)]
      exact .inl ⟨rfl, rfl⟩

/-- What is made of the fields of a record is made of them alike if the fields that grew are read alike. -/
theorem read_grown {α : Type} {make : Record → Option α} {d d' : Document}
    (grows : Grows names allowed inner d d') (depth : Nat)
    (alike : ∀ r r', r.Grown names inner r' → make r = make r') :
    (record names depth d >>= make) = (record names depth d' >>= make) := by
  rcases record_grown grows depth with ⟨here, there⟩ | ⟨r, r', here, there, grown⟩
  · rw [here, there]
  · rw [here, there]
    exact alike r r' grown

/-- Items are read alike if each of them is read like the one in its place. -/
theorem mapM_of_forall₂ {α : Type} {read : Document → Option α} {items items' : List Document}
    (each : List.Forall₂ (fun d d' => read d = read d') items items') :
    items.mapM read = items'.mapM read := by
  induction each with
  | nil => rfl
  | cons first _ ih => rw [List.mapM_cons, List.mapM_cons, first, ih]

end Decoder

end Governance.Json
