import Governance.Text.Decimal
import Mathlib.Algebra.Order.Ring.Nat

/-!
# Runs of digits

What a run of digits denotes is put together from its parts (`numberOf_append`) and stays below the power of
ten that belongs to its length (`numberOf_lt`). So cutting a run short divides its number (`numberOf_take`), and
two runs of one length that denote the same number are the same run (`eq_of_numberOf_eq`).
-/

namespace Governance.Text

theorem numberOf_append (as bs : List Char) :
    numberOf (as ++ bs) = numberOf as * 10 ^ bs.length + numberOf bs := by
  unfold numberOf
  rw [Nat.ofDigitChars_append, Nat.ofDigitChars_eq_ofDigitChars_zero, Nat.mul_comm]

theorem numberOf_cons (c : Char) (cs : List Char) :
    numberOf (c :: cs) = numberOf [c] * 10 ^ cs.length + numberOf cs :=
  numberOf_append [c] cs

theorem numberOf_zeros (k : Nat) : numberOf (List.replicate k '0') = 0 := by
  unfold numberOf
  rw [Nat.ofDigitChars_replicate_zero, Nat.mul_zero]

/-- A single digit denotes its distance from the first of them. -/
theorem numberOf_single (c : Char) : numberOf [c] = c.toNat - 48 := by
  simp [numberOf, Nat.ofDigitChars]

theorem numberOf_single_lt {c : Char} (digit : c.isDigit = true) : numberOf [c] < 10 := by
  have bounds : 48 ≤ c.toNat ∧ c.toNat ≤ 57 := Char.isDigit_iff_toNat.1 digit
  rw [numberOf_single]
  omega

/-- A run of digits denotes less than the power of ten that belongs to its length. -/
theorem numberOf_lt {cs : List Char} (digits : ∀ c ∈ cs, c.isDigit = true) :
    numberOf cs < 10 ^ cs.length := by
  induction cs with
  | nil => decide
  | cons c cs ih =>
    have first : numberOf [c] + 1 ≤ 10 := numberOf_single_lt (digits c List.mem_cons_self)
    have rest := ih fun d hd => digits d (List.mem_cons_of_mem _ hd)
    calc numberOf (c :: cs)
        = numberOf [c] * 10 ^ cs.length + numberOf cs := numberOf_cons c cs
      _ < numberOf [c] * 10 ^ cs.length + 10 ^ cs.length := Nat.add_lt_add_left rest _
      _ = (numberOf [c] + 1) * 10 ^ cs.length := (Nat.succ_mul _ _).symm
      _ ≤ 10 * 10 ^ cs.length := Nat.mul_le_mul_right _ first
      _ = 10 ^ (c :: cs).length := by rw [List.length_cons, Nat.pow_succ, Nat.mul_comm]

/-- The first digits of a run denote its number divided by the power of ten that belongs to the others. -/
theorem numberOf_take {cs : List Char} (digits : ∀ c ∈ cs, c.isDigit = true) (k : Nat) :
    numberOf (cs.take k) = numberOf cs / 10 ^ (cs.length - k) := by
  have split := numberOf_append (cs.take k) (cs.drop k)
  have small : numberOf (cs.drop k) < 10 ^ (cs.drop k).length :=
    numberOf_lt fun c hc => digits c (List.mem_of_mem_drop hc)
  rw [List.take_append_drop] at split
  rw [List.length_drop] at split small
  rw [split, Nat.add_comm, Nat.add_mul_div_right _ _ (Nat.pow_pos (by decide)),
    Nat.div_eq_of_lt small, Nat.zero_add]

/-- Two digits that denote the same number are the same digit. -/
theorem eq_of_numberOf_single {c d : Char} (hc : c.isDigit = true) (hd : d.isDigit = true)
    (same : numberOf [c] = numberOf [d]) : c = d := by
  have boundsC : 48 ≤ c.toNat ∧ c.toNat ≤ 57 := Char.isDigit_iff_toNat.1 hc
  have boundsD : 48 ≤ d.toNat ∧ d.toNat ≤ 57 := Char.isDigit_iff_toNat.1 hd
  rw [numberOf_single, numberOf_single] at same
  exact Char.toNat_inj.1 (by omega)

/-- Two runs of one length that denote the same number are the same run. -/
theorem eq_of_numberOf_eq {as bs : List Char} (digitsA : ∀ c ∈ as, c.isDigit = true)
    (digitsB : ∀ c ∈ bs, c.isDigit = true) (length : as.length = bs.length)
    (same : numberOf as = numberOf bs) : as = bs := by
  induction as generalizing bs with
  | nil => exact (List.eq_nil_of_length_eq_zero length.symm).symm
  | cons a as ih =>
    cases bs with
    | nil => cases length
    | cons b bs =>
      have tails : as.length = bs.length := Nat.succ.inj length
      have restA := numberOf_lt fun c hc => digitsA c (List.mem_cons_of_mem _ hc)
      have restB := numberOf_lt fun c hc => digitsB c (List.mem_cons_of_mem _ hc)
      rw [numberOf_cons, numberOf_cons b, tails] at same
      rw [tails] at restA
      -- The first digit is the quotient by the power of ten that belongs to the others, which are the rest.
      have positive : 0 < 10 ^ bs.length := Nat.pow_pos (by decide)
      have first : numberOf [a] = numberOf [b] := by
        have quotients := congrArg (· / 10 ^ bs.length) same
        simpa only [Nat.add_comm, Nat.add_mul_div_right _ _ positive, Nat.div_eq_of_lt restA,
          Nat.div_eq_of_lt restB, Nat.zero_add] using quotients
      have others : numberOf as = numberOf bs := by
        rw [first] at same
        exact Nat.add_left_cancel same
      rw [eq_of_numberOf_single (digitsA a List.mem_cons_self) (digitsB b List.mem_cons_self) first,
        ih (fun c hc => digitsA c (List.mem_cons_of_mem _ hc))
          (fun c hc => digitsB c (List.mem_cons_of_mem _ hc)) tails others]

end Governance.Text
