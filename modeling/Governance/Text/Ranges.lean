/-!
# Ranges of code points

A property of characters is kept as a list of code points in increasing order: the property holds from
the first of them to before the second, from the third to before the fourth, and so on. Main
statement: it holds of a code point that the first range has, or else as the other ranges say
(`liesIn_cons_cons`), and of none below the first (`liesIn_of_lt_head`).
-/

namespace Governance.Text

/-- Whether a code point lies in one of the ranges of an increasing list. -/
def liesIn (n : Nat) : List Nat → Bool
  | start :: stop :: rest => decide (start ≤ n) && (decide (n < stop) || liesIn n rest)
  | _ => false

theorem liesIn_nil (n : Nat) : liesIn n [] = false := rfl

/-- Nothing below the first range lies in a list of ranges. -/
theorem liesIn_of_lt_head {n start : Nat} {rest : List Nat} (h : n < start) :
    liesIn n (start :: rest) = false := by
  cases rest with
  | nil => rfl
  | cons stop rest => simp [liesIn, Nat.not_le.2 h]

/-- In increasing ranges, a code point lies in the first one or in the others. -/
theorem liesIn_cons_cons {n start stop : Nat} {rest : List Nat}
    (sorted : (start :: stop :: rest).Pairwise (· ≤ ·)) :
    liesIn n (start :: stop :: rest) = (decide (start ≤ n ∧ n < stop) || liesIn n rest) := by
  by_cases h : start ≤ n
  · simp [liesIn, h]
  · have below : liesIn n rest = false := by
      cases rest with
      | nil => rfl
      | cons next rest =>
        have : next ∈ stop :: next :: rest := by simp
        have := List.rel_of_pairwise_cons sorted this
        exact liesIn_of_lt_head (by omega)
    simp [liesIn, h, below]

end Governance.Text
