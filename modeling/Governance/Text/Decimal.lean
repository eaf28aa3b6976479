/-!
# Decimal numerals

Natural numbers in decimal digits. Written numerals have no leading zero and no sign; a reader takes
ASCII digits only, lets one plus sign stand before them, and refuses a number that does not fit the
word it is read for. Main statement: a written number that fits is read back (`readBelow_digits`).
-/

namespace Governance.Text

/-- The decimal digits of a natural number, the most significant first. -/
def digits (n : Nat) : List Char :=
  Nat.toDigits 10 n

/-- The number that a run of decimal digits denotes. -/
def numberOf (cs : List Char) : Nat :=
  Nat.ofDigitChars 10 cs 0

/-- Reads a run of one or more ASCII digits that denotes a number below `bound`. -/
def readDigits (bound : Nat) (cs : List Char) : Option Nat :=
  if cs ≠ [] ∧ cs.all Char.isDigit ∧ numberOf cs < bound then some (numberOf cs) else none

/-- Reads a numeral below `bound`: digits, after at most one plus sign. -/
def readBelow (bound : Nat) : List Char → Option Nat
  | '+' :: cs => readDigits bound cs
  | cs => readDigits bound cs

@[simp] theorem numberOf_digits (n : Nat) : numberOf (digits n) = n := by
  simp [numberOf, digits]

theorem digits_ne_nil (n : Nat) : digits n ≠ [] :=
  Nat.toDigits_ne_nil

theorem isDigit_of_mem_digits {n : Nat} {c : Char} (h : c ∈ digits n) : c.isDigit = true :=
  Nat.isDigit_of_mem_toDigits (by decide) (by decide) h

theorem all_isDigit_digits (n : Nat) : (digits n).all Char.isDigit = true :=
  List.all_eq_true.2 fun _ h => isDigit_of_mem_digits h

theorem readDigits_digits {bound n : Nat} (h : n < bound) : readDigits bound (digits n) = some n := by
  simp [readDigits, digits_ne_nil, all_isDigit_digits, h]

/-- Digits are read as they are, for no sign stands before them. -/
theorem readBelow_of_isDigit {bound : Nat} {cs : List Char} (h : ∀ c ∈ cs, c.isDigit = true) :
    readBelow bound cs = readDigits bound cs := by
  unfold readBelow
  split
  · exact absurd (h '+' List.mem_cons_self) (by decide)
  · rfl

/-- A number that fits is read back from its digits. -/
theorem readBelow_digits {bound n : Nat} (h : n < bound) : readBelow bound (digits n) = some n := by
  rw [readBelow_of_isDigit fun _ => isDigit_of_mem_digits]
  exact readDigits_digits h

end Governance.Text
