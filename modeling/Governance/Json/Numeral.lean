import Governance.Text.Decimal

/-!
# Numerals of JSON

A number as a JSON text spells it: an optional minus sign, digits without a needless leading zero,
and optionally a fraction and a power of ten. The spelling is kept apart from the number it denotes,
because the same numeral is read as a word, as an amount or as a double in different places. Main
statement: reading the text of an integer numeral gives the numeral back, whatever follows it, as
long as that does not continue the number (`read_text_ofNat`).
-/

namespace Governance.Json

open Governance.Text

/-- A number as it is spelled. -/
structure Numeral where
  /-- Whether a minus sign stands in front. -/
  negative : Bool
  /-- The digits before the point. -/
  whole : List Char
  /-- The digits after the point, if there is one. -/
  fraction : Option (List Char)
  /-- The sign (as written, possibly none) and the digits of the power of ten, if there is one. -/
  exponent : Option (List Char × List Char)
  deriving DecidableEq, Repr, Inhabited

namespace Numeral

/-- The numeral of a natural number. -/
def ofNat (n : Nat) : Numeral :=
  ⟨false, digits n, none, none⟩

/-- The numeral of an integer. -/
def ofInt (n : Int) : Numeral :=
  ⟨decide (n < 0), digits n.natAbs, none, none⟩

/-- The characters of a numeral. -/
def text (n : Numeral) : List Char :=
  (if n.negative then ['-'] else []) ++ n.whole ++
    (match n.fraction with
      | none => []
      | some ds => '.' :: ds) ++
    (match n.exponent with
      | none => []
      | some (sign, ds) => 'e' :: sign ++ ds)

/-- Whether the numeral is an integer: no point and no power of ten. -/
def isInteger (n : Numeral) : Bool :=
  n.fraction.isNone && n.exponent.isNone

/-- The natural number below `bound` that an integer numeral without minus sign denotes. -/
def natBelow (bound : Nat) (n : Numeral) : Option Nat :=
  if !n.negative && n.isInteger && decide (numberOf n.whole < bound) then some (numberOf n.whole)
  else none

/-! ## Reading -/

/-- Splits off a minus sign. -/
def readSign : List Char → Bool × List Char
  | '-' :: cs => (true, cs)
  | cs => (false, cs)

/-- Splits off one or more digits. -/
def readRun (cs : List Char) : Option (List Char × List Char) :=
  match cs.takeWhile Char.isDigit with
  | [] => none
  | ds => some (ds, cs.dropWhile Char.isDigit)

/-- Splits off the digits before the point: a leading zero stands alone. -/
def readWhole (cs : List Char) : Option (List Char × List Char) :=
  match readRun cs with
  | some ('0' :: _ :: _, _) => none
  | run => run

/-- Splits off a point with its digits, if a point comes next. -/
def readFraction : List Char → Option (Option (List Char) × List Char)
  | '.' :: cs => (readRun cs).map fun (ds, rest) => (some ds, rest)
  | cs => some (none, cs)

/-- Splits off the sign of a power of ten. -/
def readExponentSign : List Char → List Char × List Char
  | '+' :: cs => (['+'], cs)
  | '-' :: cs => (['-'], cs)
  | cs => ([], cs)

/-- Splits off a power of ten, if one comes next. -/
def readExponent : List Char → Option (Option (List Char × List Char) × List Char)
  | [] => some (none, [])
  | c :: cs =>
    if c = 'e' ∨ c = 'E' then
      let (sign, cs) := readExponentSign cs
      (readRun cs).map fun (ds, rest) => (some (sign, ds), rest)
    else some (none, c :: cs)

/-- Splits a numeral off the front of a text; `none` if the text begins with none. -/
def read (cs : List Char) : Option (Numeral × List Char) := do
  let (negative, cs) := readSign cs
  let (whole, cs) ← readWhole cs
  let (fraction, cs) ← readFraction cs
  let (exponent, cs) ← readExponent cs
  return (⟨negative, whole, fraction, exponent⟩, cs)

/-! ## What is written is read -/

/-- A character that can continue a numeral. -/
def continues (c : Char) : Bool :=
  c.isDigit || c == '.' || c == 'e' || c == 'E'

/-- Whether a text begins with no character that can continue a numeral. -/
def Ends (cs : List Char) : Prop :=
  ∀ c, cs.head? = some c → continues c = false

theorem takeWhile_of_ends {cs : List Char} (h : Ends cs) : cs.takeWhile Char.isDigit = [] ∧
    cs.dropWhile Char.isDigit = cs := by
  cases cs with
  | nil => exact ⟨rfl, rfl⟩
  | cons c cs =>
    have : c.isDigit = false := by
      have := h c rfl
      simp [continues] at this
      exact this.1.1.1
    simp [this]

theorem readRun_digits {ds rest : List Char} (ne : ds ≠ []) (hd : ds.all Char.isDigit = true)
    (hr : Ends rest) : readRun (ds ++ rest) = some (ds, rest) := by
  have hall := List.all_eq_true.1 hd
  obtain ⟨htake, hdrop⟩ := takeWhile_of_ends hr
  rw [readRun, List.takeWhile_append_of_pos hall, List.dropWhile_append_of_pos hall, htake, hdrop,
    List.append_nil]
  cases ds with
  | nil => exact absurd rfl ne
  | cons d ds => rfl

/-- The digits of a number start with a zero only if they are that zero alone. -/
theorem digits_eq_zero_cons {n : Nat} {ds : List Char} (h : digits n = '0' :: ds) : ds = [] := by
  induction n using Nat.strongRecOn generalizing ds with
  | ind n ih =>
    rw [digits, Nat.toDigits_eq_if (by decide)] at h
    split at h
    · exact (List.cons.inj h).2.symm
    · next hn =>
      have big : ¬ n < 10 := hn
      cases hq : Nat.toDigits 10 (n / 10) with
      | nil => exact absurd hq Nat.toDigits_ne_nil
      | cons d tail =>
        rw [hq, List.cons_append] at h
        obtain ⟨rfl, rfl⟩ := List.cons.inj h
        have htail : tail = [] := ih (n / 10) (by omega) hq
        have value : Nat.ofDigitChars 10 (Nat.toDigits 10 (n / 10)) 0 = n / 10 :=
          Nat.ofDigitChars_ten_toDigits
        rw [hq, htail] at value
        have : (0 : Nat) = n / 10 := value
        omega

theorem readWhole_digits (n : Nat) {rest : List Char} (hr : Ends rest) :
    readWhole (digits n ++ rest) = some (digits n, rest) := by
  rw [readWhole, readRun_digits (digits_ne_nil n) (all_isDigit_digits n) hr]
  split
  · next ds c cs rest' heq =>
    simp only [Option.some.injEq, Prod.mk.injEq] at heq
    exact absurd (digits_eq_zero_cons heq.1) (by simp)
  · rfl

theorem readFraction_of_ends {cs : List Char} (h : Ends cs) :
    readFraction cs = some (none, cs) := by
  cases cs with
  | nil => rfl
  | cons c cs =>
    have := h c rfl
    unfold readFraction
    split
    · next heq =>
      obtain ⟨rfl, rfl⟩ := List.cons.inj heq
      exact absurd this (by decide)
    · rfl

theorem readExponent_of_ends {cs : List Char} (h : Ends cs) :
    readExponent cs = some (none, cs) := by
  cases cs with
  | nil => rfl
  | cons c cs =>
    have hc := h c rfl
    have : ¬ (c = 'e' ∨ c = 'E') := by
      rintro (rfl | rfl) <;> exact absurd hc (by decide)
    simp [readExponent, this]

theorem readSign_digits (n : Nat) (rest : List Char) :
    readSign (digits n ++ rest) = (false, digits n ++ rest) := by
  cases hd : digits n with
  | nil => exact absurd hd (digits_ne_nil n)
  | cons d ds =>
    have : d.isDigit = true := isDigit_of_mem_digits (n := n) (by simp [hd])
    unfold readSign
    split
    · next heq =>
      obtain ⟨rfl, -⟩ := List.cons.inj heq
      exact absurd this (by decide)
    · rfl

/-- The numeral of an integer is read back, whatever ends it. -/
theorem read_text_ofInt (n : Int) {rest : List Char} (h : Ends rest) :
    read ((ofInt n).text ++ rest) = some (ofInt n, rest) := by
  by_cases neg : n < 0
  · simp [read, text, ofInt, neg, readSign, readWhole_digits _ h, readFraction_of_ends h,
      readExponent_of_ends h]
  · simp [read, text, ofInt, neg, readSign_digits, readWhole_digits _ h, readFraction_of_ends h,
      readExponent_of_ends h]

theorem ofInt_natCast (n : Nat) : ofInt n = ofNat n := by
  simp [ofInt, ofNat]

/-- The numeral of a natural number is read back, whatever ends it. -/
theorem read_text_ofNat (n : Nat) {rest : List Char} (h : Ends rest) :
    read ((ofNat n).text ++ rest) = some (ofNat n, rest) := by
  simpa [ofInt_natCast] using read_text_ofInt n h

theorem natBelow_ofNat {bound n : Nat} (h : n < bound) : natBelow bound (ofNat n) = some n := by
  simp [natBelow, ofNat, isInteger, h]

end Numeral

end Governance.Json
