/-!
# Segments

A text falls into segments at every occurrence of a mark; there is always at least one segment, and
segments may be empty. A text without marks is one segment (`segments_of_not_mem`). Main statement: the
segments of two texts with a mark between them are the segments of the one, then those of the other
(`segments_append`).
-/

namespace Governance.Text

/-- The segments of a text between the occurrences of a mark. -/
def segments (mark : Char) : List Char → List (List Char)
  | [] => [[]]
  | c :: cs =>
    if c = mark then [] :: segments mark cs
    else
      match segments mark cs with
      | part :: parts => (c :: part) :: parts
      | [] => [[c]]

theorem segments_ne_nil (mark : Char) (cs : List Char) : segments mark cs ≠ [] := by
  cases cs with
  | nil => exact List.cons_ne_nil _ _
  | cons c cs =>
    rw [segments]
    split
    · exact List.cons_ne_nil _ _
    · split <;> exact List.cons_ne_nil _ _

/-- A text without marks is one segment. -/
theorem segments_of_not_mem {mark : Char} {cs : List Char} (h : mark ∉ cs) :
    segments mark cs = [cs] := by
  induction cs with
  | nil => rfl
  | cons c cs ih =>
    have first : ¬ c = mark := fun same => h (same ▸ List.mem_cons_self)
    rw [segments, if_neg first, ih fun there => h (List.mem_cons_of_mem _ there)]

/-- A mark between two texts keeps their segments apart. -/
theorem segments_append (mark : Char) (cs ds : List Char) :
    segments mark (cs ++ mark :: ds) = segments mark cs ++ segments mark ds := by
  induction cs with
  | nil => simp [segments]
  | cons c cs ih =>
    rw [List.cons_append, segments, segments, ih]
    split
    · rfl
    · cases h : segments mark cs with
      | nil => exact absurd h (segments_ne_nil mark cs)
      | cons part parts => rfl

end Governance.Text
