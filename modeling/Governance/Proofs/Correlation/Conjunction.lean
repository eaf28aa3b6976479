import Governance.Proofs.Correlation.Identity
import Governance.Proofs.StringMap

/-!
# Fields as a conjunction

Fields are made by adding values under paths, one after the other (`StringMap.ofList`). What remains of this is the
value that was added last under each path. So the order of distinct paths does not count, and the document of
the fields has them in the order of their bytes (`Fields.exists_ascending`); and a payload holds the fields
exactly if it holds each pair that was added (`Fields.holdIn_ofList_iff`), which for values without doubles
means that it yields the same value (`Fields.yields_iff`). Main statement: `Fields.canonical_conjunction`.
-/

namespace Governance

open Json Text

namespace Fields

variable {pairs : List (String × Value)}

/-- The document of fields that were added under distinct paths has the pairs in the order of the bytes of their
paths. -/
theorem exists_ascending (distinct : (pairs.map Prod.fst).Nodup) :
    ∃ ascending : List (String × Value), ascending.Perm pairs ∧
      ascending.Pairwise (fun a b => Utf8.encode a.1 < Utf8.encode b.1) ∧
      toDocument (.ofList pairs) = .record (ascending.map fun (path, v) => (path, v.toDocument)) :=
  ⟨_, StringMap.entries_ofList_perm distinct, StringMap.ascending_entries _, rfl⟩

/-- Fields under distinct paths are held exactly if each of them is. -/
theorem holdIn_ofList_iff (distinct : (pairs.map Prod.fst).Nodup) (payload : Value) :
    holdIn (.ofList pairs) payload = true ↔
      ∀ e ∈ pairs, ∃ v, lookup payload e.1 = some v ∧ v.same e.2 = true := by
  rw [CorrelationKey.holdIn_iff]
  simp only [StringMap.get?_ofList_iff distinct, Prod.forall]

/-- A payload yields a value that is equal as JSON to a regular one exactly if it yields that one. -/
theorem yields_iff {payload expected : Value} {path : String} (regular : expected.Regular) :
    (∃ v, lookup payload path = some v ∧ v.same expected = true) ↔
      lookup payload path = some expected := by
  constructor
  · rintro ⟨v, found, same⟩
    rw [found, Value.eq_of_same regular same]
  · intro found
    exact ⟨expected, found, expected.same_self⟩

/-- **Fields are a canonical conjunction.** Pairs with distinct paths make the same fields and the same JSON text in
whatever order they are added: the object of the pairs in the order of the bytes of their paths. A payload holds the
fields exactly if under each path a value is found that is equal as JSON to the one given, which is that one itself
unless it has doubles. A value that is added under a path replaces one that was added there before. And a
path leads on from what is found under its first part, down to the names of members. -/
theorem canonical_conjunction :
    (∀ pairs : List (String × Value), (pairs.map Prod.fst).Nodup →
      (∀ order : List (String × Value), order.Perm pairs →
        (.ofList order : Fields) = .ofList pairs ∧
        (toDocument (.ofList order)).toText = (toDocument (.ofList pairs)).toText) ∧
      (∃ ascending : List (String × Value), ascending.Perm pairs ∧
        ascending.Pairwise (fun a b => Utf8.encode a.1 < Utf8.encode b.1) ∧
        toDocument (.ofList pairs) = .record (ascending.map fun (path, v) => (path, v.toDocument))) ∧
      (∀ payload, holdIn (.ofList pairs) payload = true ↔
        ∀ e ∈ pairs, ∃ v, lookup payload e.1 = some v ∧ v.same e.2 = true) ∧
      ((∀ e ∈ pairs, e.2.Regular) → ∀ payload, holdIn (.ofList pairs) payload = true ↔
        ∀ e ∈ pairs, lookup payload e.1 = some e.2)) ∧
    (∀ (before between after : List (String × Value)) (path : String) (earlier later : Value),
      (.ofList (before ++ (path, earlier) :: (between ++ (path, later) :: after)) : Fields) =
        .ofList (before ++ (between ++ (path, later) :: after)) ∧
      (StringMap.ofList (before ++ (path, earlier) :: (between ++ [(path, later)]))).get? path =
        some later) ∧
    (∀ (payload : Value) (path rest : String),
      lookup payload (path ++ "." ++ rest) = (lookup payload path).bind fun v => lookup v rest) ∧
    (∀ (payload : Value) (name : String), '.' ∉ name.toList →
      lookup payload name = payload.get? name) := by
  refine ⟨fun pairs distinct => ⟨?order, exists_ascending distinct, holdIn_ofList_iff distinct, ?exact⟩,
    ?replaced, lookup_append, fun payload _ => lookup_name payload⟩
  case order =>
    intro order same
    have fields : (.ofList order : Fields) = .ofList pairs := (StringMap.ofList_perm distinct same.symm).symm
    exact ⟨fields, by rw [fields]⟩
  case exact =>
    intro regular payload
    rw [holdIn_ofList_iff distinct]
    exact forall₂_congr fun e he => yields_iff (regular e he)
  case replaced =>
    intro before between after path earlier later
    refine ⟨StringMap.ofList_replaced before between after path earlier later, ?_⟩
    rw [StringMap.ofList_replaced, StringMap.get?_ofList_eq, List.reverse_append, List.reverse_append]
    exact (Entries.get?_cons path path later _).trans (if_pos rfl)

/-- Two fields, one of them behind an empty name, are added in either order and held by a payload. -/
theorem conjunction_of_two_fields :
    let pairs : List (String × Value) := [("é", .null), ("role..name", .string "editors")]
    let payload : Value :=
      .record [("role", .record [("", .record [("name", .string "editors")])]), ("é", .null)]
    (pairs.map Prod.fst).Nodup ∧ pairs.reverse.Perm pairs ∧ (∀ e ∈ pairs, e.2.Regular) ∧
      '.' ∉ "é".toList ∧ (.ofList pairs.reverse : Fields) = .ofList pairs ∧
      lookup payload "é" = payload.get? "é" ∧ holdIn (.ofList pairs) payload = true := by
  intro pairs payload
  have distinct : (pairs.map Prod.fst).Nodup := by decide
  have regular : ∀ e ∈ pairs, e.2.Regular := by
    simp only [pairs, List.forall_mem_cons]
    exact ⟨trivial, trivial, nofun⟩
  have plain : '.' ∉ "é".toList := by decide
  obtain ⟨order, _, _, exactly⟩ := canonical_conjunction.1 pairs distinct
  have found : ∀ e ∈ pairs, lookup payload e.1 = some e.2 := by decide
  exact ⟨distinct, List.reverse_perm pairs, regular, plain, (order _ (List.reverse_perm pairs)).1,
    canonical_conjunction.2.2.2 payload "é" plain, (exactly regular payload).2 found⟩

end Fields

end Governance
