import Governance.Text.Decimal

/-!
# Encoded labels

A label that is not ASCII is written in letters, digits and hyphens: first its ASCII characters with a
hyphen behind them, then one number for each of the others, in the order of their code points, which
says how far it is from the one before it, in code point and in place. The numbers have digits up to
36, the lowest first, and end with the first digit below a limit; the limits follow the size of the
numbers so far. No number reaches `2 ^ 32`. Main statement: reading a number uses some of the text up
(`length_of_number?`).
-/

namespace Governance.Url.Punycode

/-- The value of a digit: letters come before numerals. -/
def digit? (c : Char) : Option Nat :=
  if 'a' ≤ c ∧ c ≤ 'z' then some (c.toNat - 'a'.toNat)
  else if c.isDigit then some (c.toNat - '0'.toNat + 26)
  else none

/-- The value below which the digit of place `place` ends a number; the places count in steps of 36. -/
def limit (place bias : Nat) : Nat :=
  if place ≤ bias then 1 else if bias + 26 ≤ place then 26 else place - bias

/-- Divides a distance by 35 until it is at most 455, counting the divisions in steps of 36. -/
def settleBias : Nat → Nat → Nat → Nat
  | 0, count, n => count + 36 * n / (n + 38)
  | fuel + 1, count, n =>
    if 455 < n then settleBias fuel (count + 36) (n / 35) else count + 36 * n / (n + 38)

/-- The bias after a number has put a character among others, `count` with itself. Ten divisions bring
every number to 455. -/
def nextBias (n count : Nat) (isFirst : Bool) : Nat :=
  let start := if isFirst then n / 700 else n / 2
  settleBias 10 0 (start + start / count)

/-- Reads a number and adds it to `sum`; what follows it is left. `weight` is what a digit is worth at
this place. -/
def number? : List Char → (place bias weight sum : Nat) → Option (Nat × List Char)
  | [], _, _, _, _ => none
  | c :: cs, place, bias, weight, sum =>
    match digit? c with
    | none => none
    | some digit =>
      let sum := sum + digit * weight
      if UInt32.size ≤ sum then none
      else if digit < limit place bias then some (sum, cs)
      else
        let weight := weight * (36 - limit place bias)
        if UInt32.size ≤ weight then none else number? cs (place + 36) bias weight sum

/-- A number takes at least one digit. -/
theorem length_of_number? {cs rest : List Char} {place bias weight sum n : Nat}
    (h : number? cs place bias weight sum = some (n, rest)) : rest.length < cs.length := by
  induction cs generalizing place weight sum with
  | nil => cases h
  | cons c cs ih =>
    rw [number?] at h
    split at h
    · cases h
    · dsimp only at h
      split at h
      · cases h
      · split at h
        · obtain ⟨_, rfl⟩ := Prod.mk.inj (Option.some.inj h)
          exact Nat.lt_succ_self _
        · split at h
          · cases h
          · exact Nat.lt_succ_of_lt (ih h)

/-- Reads numbers to the end of a text and puts a character among those that are known for each.
`point` is the code point of the one before it and `place` the place behind that one. -/
def insertAll (cs : List Char) (point place bias : Nat) (known : List Char) : Option (List Char) :=
  if cs.isEmpty then some known
  else
    match _read : number? cs 36 bias 1 place with
    | none => none
    | some (sum, rest) =>
      let count := known.length + 1
      let next := point + sum / count
      let slot := sum % count
      if next.isValidChar then
        insertAll rest next (slot + 1) (nextBias (sum - place) count (place == 0))
          (known.take slot ++ Char.ofNat next :: known.drop slot)
      else none
termination_by cs.length
decreasing_by exact length_of_number? _read

/-- The characters that an encoded label stands for. A hyphen that nothing stands in front of ends no
ASCII characters and is no digit either. -/
def decode? (label : List Char) : Option (List Char) :=
  let numbers := (label.reverse.takeWhile (· ≠ '-')).reverse
  let ascii := label.take (label.length - numbers.length)
  if ascii.length = 1 then none else insertAll numbers 0x80 0 72 ascii.dropLast

end Governance.Url.Punycode
