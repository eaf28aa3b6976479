import Governance.Proofs.Text.Order
import Mathlib.Data.List.Nodup

/-!
# Maps from lists of entries

What a map has become after entries were put in one after the other. Of several entries with one key only the last
one counts, and the others might as well not have been put in (`ofList_replaced`). If no two have one
key, the map holds just these entries (`entries_ofList_perm`), in whatever order they came (`ofList_perm`),
and keeps them in the order of the bytes of their keys (`ascending_entries`).
-/

namespace Governance

namespace Entries

/-- Sorted entries have distinct keys. -/
theorem Sorted.distinct {α : Type} {es : List (String × α)} (h : Sorted es) :
    (es.map Prod.fst).Nodup := by
  rw [List.Nodup, List.pairwise_map]
  refine List.Pairwise.imp ?_ h
  intro a b less same
  rw [same] at less
  exact String.lt_irrefl _ less

end Entries

namespace StringMap

variable {α : Type}

/-- If no two entries have one key, each of them stands under its key. -/
theorem get?_ofList_iff {es : List (String × α)} (distinct : (es.map Prod.fst).Nodup) {key : String}
    {value : α} : (ofList es).get? key = some value ↔ (key, value) ∈ es := by
  constructor
  · exact mem_of_get?_ofList
  · intro held
    refine get?_ofList held ?_
    intro e he same
    have := List.inj_on_of_nodup_map distinct he held same
    rw [this]

/-- The order of entries with distinct keys does not count. -/
theorem ofList_perm {es fs : List (String × α)} (distinct : (es.map Prod.fst).Nodup)
    (order : es.Perm fs) : ofList es = ofList fs := by
  have distinct' : (fs.map Prod.fst).Nodup := (order.map Prod.fst).nodup_iff.1 distinct
  refine ext_get? fun key => Option.ext fun value => ?_
  rw [get?_ofList_iff distinct, get?_ofList_iff distinct', order.mem_iff]

/-- Entries with distinct keys are all that the map holds. -/
theorem entries_ofList_perm {es : List (String × α)} (distinct : (es.map Prod.fst).Nodup) :
    (ofList es).entries.Perm es := by
  have each := (ofList es).sorted.distinct
  rw [List.perm_ext_iff_of_nodup (List.Nodup.of_map _ each) (List.Nodup.of_map _ distinct)]
  rintro ⟨key, value⟩
  rw [mem_entries, get?_ofList_iff distinct]

/-- An entry leaves no trace if another one with its key is put in later. -/
theorem ofList_replaced (before between after : List (String × α)) (key : String) (earlier later : α) :
    ofList (before ++ (key, earlier) :: (between ++ (key, later) :: after)) =
      ofList (before ++ (between ++ (key, later) :: after)) := by
  refine ext_get? fun key' => ?_
  simp only [get?_ofList_eq, List.reverse_append, List.reverse_cons, Entries.get?_append,
    Entries.get?_cons, Entries.get?_nil]
  by_cases here : key' = key
  · simp only [if_pos here, Option.or_assoc, Option.some_or]
  · simp only [if_neg here, Option.or_none]

/-- The entries are in the order of the bytes of their keys. -/
theorem ascending_entries (m : StringMap α) :
    m.entries.Pairwise fun a b => Text.Utf8.encode a.1 < Text.Utf8.encode b.1 :=
  List.Pairwise.imp (fun less => Text.Utf8.encode_lt_encode_iff.2 less) m.sorted

end StringMap

end Governance
