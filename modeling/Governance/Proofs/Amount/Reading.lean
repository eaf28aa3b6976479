import Governance.Amount
import Governance.Proofs.Text.Digits
import Mathlib.Data.List.TakeWhile
import Mathlib.Data.Rat.Cast.Order
import Mathlib.Tactic.FieldSimp
import Mathlib.Tactic.NormNum.Pow

/-!
# Reading amounts

A written amount is a decimal number (`Decimal`) with commas anywhere in it and blanks around it (`Spells`), and
it denotes a rational number (`denoted`). The reader takes it apart in the same way (`spells_iff`) and then
calculates with numbers of 128 bits. What the decimals behind the point stand for always fits
(`ofDecimals?_of_isDigit`), so that only the whole amount may be too large (`ofParts?_of_isDigit`). Main
statement: the reader accepts the decimal numbers with at most 24 digits behind the point that are worth less than
`2 ^ 128` yoctoNEAR, as exactly what they are worth, and nothing else (`reads_exactly_decimals`).
-/

namespace Governance.Text

/-! ## Blanks at the ends -/

/-- Blanks at the beginning do not count. -/
theorem trimStart_append {before : List Char} (blank : ∀ c ∈ before, isBlank c = true)
    (cs : List Char) : trimStart (before ++ cs) = trimStart cs := by
  rw [trimStart, List.dropWhile_append_of_pos blank]
  rfl

/-- A text without blanks is what is left of it between blanks. -/
theorem trim_between {before middle after : List Char} (blankBefore : ∀ c ∈ before, isBlank c = true)
    (blankAfter : ∀ c ∈ after, isBlank c = true) (solid : ∀ c ∈ middle, isBlank c = false) :
    trim (before ++ middle ++ after) = middle := by
  have back : ∀ c ∈ after.reverse, isBlank c = true := fun c hc => blankAfter c (List.mem_reverse.1 hc)
  cases middle with
  | nil =>
    have gone : trimStart after = [] := by
      have := trimStart_append blankAfter []
      rwa [List.append_nil] at this
    rw [trim, List.append_nil, trimStart_append blankBefore, gone]
    rfl
  | cons c cs =>
    have start : trimStart (c :: cs ++ after) = c :: cs ++ after := by
      refine trimStart_of_head fun d hd => ?_
      cases hd
      exact solid c List.mem_cons_self
    have rest : trimStart (c :: cs).reverse = (c :: cs).reverse :=
      trimStart_of_head fun d hd => solid d (List.mem_reverse.1 (List.mem_of_head? hd))
    rw [trim, List.append_assoc, trimStart_append blankBefore, start, List.reverse_append,
      trimStart_append back, rest, List.reverse_reverse]

/-- Trimming takes nothing but blanks. -/
theorem exists_trimmed (cs : List Char) :
    ∃ before after, cs = before ++ trim cs ++ after ∧ ∀ c ∈ before ++ after, isBlank c = true := by
  refine ⟨cs.takeWhile isBlank, ((trimStart cs).reverse.takeWhile isBlank).reverse, ?_, ?_⟩
  · have back := List.takeWhile_append_dropWhile (p := isBlank) (l := (trimStart cs).reverse)
    have front := List.takeWhile_append_dropWhile (p := isBlank) (l := cs)
    rw [List.append_assoc, trim, ← List.reverse_append]
    show cs = _ ++ (_ ++ List.dropWhile isBlank _).reverse
    rw [back, List.reverse_reverse]
    exact front.symm
  · intro c hc
    rcases List.mem_append.1 hc with hc | hc
    · exact List.mem_takeWhile_imp hc
    · exact List.mem_takeWhile_imp (List.mem_reverse.1 hc)

end Governance.Text

namespace Governance.Amount

open Governance.Text

variable {cs text whole fraction : List Char}

/-! ## Decimal numbers -/

/-- A decimal number, by its digits before and behind the point: digits of ASCII, at least one of them, and at
most one point. -/
inductive Decimal : List Char → List Char → List Char → Prop
  | plain {whole : List Char} (digits : ∀ c ∈ whole, c.isDigit = true) (filled : whole ≠ []) :
    Decimal whole whole []
  | pointed {whole fraction : List Char} (digits : ∀ c ∈ whole ++ fraction, c.isDigit = true)
    (filled : whole ++ fraction ≠ []) : Decimal (whole ++ '.' :: fraction) whole fraction

/-- The text is a decimal number with these digits, with commas anywhere in it and blanks around it. -/
def Spells (text whole fraction : List Char) : Prop :=
  ∃ before middle after, text = before ++ middle ++ after ∧
    (∀ c ∈ before ++ after, isBlank c = true) ∧ Decimal (middle.filter (· ≠ ',')) whole fraction

/-- What digits before and behind a point denote: all of them as one number, divided by ten for each of those
behind the point. -/
def denoted (whole fraction : List Char) : ℚ :=
  numberOf (whole ++ fraction) / 10 ^ fraction.length

/-- The text is a decimal number of NEAR with at most 24 decimals, and is worth so many yoctoNEAR. -/
def Worth (text : List Char) (yocto : ℚ) : Prop :=
  ∃ whole fraction, Spells text whole fraction ∧ fraction.length ≤ decimals ∧
    yocto = denoted whole fraction * 10 ^ decimals

theorem Decimal.isDigit (decimal : Decimal cs whole fraction) :
    ∀ c ∈ whole ++ fraction, c.isDigit = true := by
  cases decimal with
  | plain digits _ =>
    rw [List.append_nil]
    exact digits
  | pointed digits _ => exact digits

theorem Decimal.filled (decimal : Decimal cs whole fraction) : whole ++ fraction ≠ [] := by
  cases decimal with
  | plain _ filled =>
    rw [List.append_nil]
    exact filled
  | pointed _ filled => exact filled

/-- A decimal number consists of its digits and its point. -/
theorem Decimal.mem (decimal : Decimal cs whole fraction) {c : Char} (hc : c ∈ cs) :
    c.isDigit = true ∨ c = '.' := by
  cases decimal with
  | plain digits _ => exact .inl (digits c hc)
  | pointed digits _ =>
    rcases List.mem_append.1 hc with hc | hc
    · exact .inl (digits c (List.mem_append_left _ hc))
    · rcases List.mem_cons.1 hc with rfl | hc
      · exact .inr rfl
      · exact .inl (digits c (List.mem_append_right _ hc))

theorem ne_point_of_isDigit {c : Char} (digit : c.isDigit = true) : decide (c ≠ '.') = true := by
  rw [decide_eq_true_iff]
  rintro rfl
  exact absurd digit (by decide)

/-- Digits are split off up to the point behind them. -/
theorem splitPoint_pointed (digits : ∀ c ∈ whole, c.isDigit = true) :
    splitPoint (whole ++ '.' :: fraction) = (whole, fraction) := by
  have solid : ∀ c ∈ whole, decide (c ≠ '.') = true := fun c hc => ne_point_of_isDigit (digits c hc)
  rw [splitPoint, List.takeWhile_append_of_pos solid, List.dropWhile_append_of_pos solid]
  simp

/-- Without a point there is nothing behind it. -/
theorem splitPoint_plain (digits : ∀ c ∈ whole, c.isDigit = true) : splitPoint whole = (whole, []) := by
  have solid : ∀ c ∈ whole, decide (c ≠ '.') = true := fun c hc => ne_point_of_isDigit (digits c hc)
  rw [splitPoint, List.takeWhile_eq_self_iff.2 solid, List.dropWhile_eq_nil_iff.2 solid]
  rfl

/-- Decimal numbers are what is split at the first point into digits, at least one of them. -/
theorem decimal_iff : Decimal cs whole fraction ↔
    splitPoint cs = (whole, fraction) ∧ whole ++ fraction ≠ [] ∧
      ∀ c ∈ whole ++ fraction, c.isDigit = true := by
  constructor
  · intro decimal
    refine ⟨?_, decimal.filled, decimal.isDigit⟩
    cases decimal with
    | plain digits _ => exact splitPoint_plain digits
    | pointed digits _ => exact splitPoint_pointed fun c hc => digits c (List.mem_append_left _ hc)
  · rintro ⟨split, filled, digits⟩
    obtain ⟨rfl, behind⟩ := Prod.mk.inj split
    have joined := List.takeWhile_append_dropWhile (p := fun c : Char => decide (c ≠ '.')) (l := cs)
    cases rest : cs.dropWhile fun c => decide (c ≠ '.') with
    | nil =>
      rw [rest] at behind joined
      subst behind
      rw [List.append_nil] at joined
      rw [joined, List.drop_nil, List.append_nil] at filled digits
      rw [joined, List.drop_nil]
      exact .plain digits filled
    | cons c tail =>
      have point : c = '.' := by
        have first := List.head?_dropWhile_not (fun c : Char => decide (c ≠ '.')) cs
        rw [rest] at first
        simpa using first
      subst point
      rw [rest] at behind joined
      subst behind
      have pointed := Decimal.pointed digits filled
      rwa [show List.drop 1 ('.' :: tail) = tail from rfl, joined] at pointed

/-- A text spells digits exactly if it is split into them once blanks and commas are gone. -/
theorem spells_iff : Spells text whole fraction ↔
    splitPoint (significant text) = (whole, fraction) ∧ whole ++ fraction ≠ [] ∧
      ∀ c ∈ whole ++ fraction, c.isDigit = true := by
  rw [← decimal_iff]
  constructor
  · rintro ⟨before, middle, after, rfl, blank, decimal⟩
    have solid : ∀ c ∈ middle, isBlank c = false := by
      intro c hc
      by_cases comma : c = ','
      · rw [comma]
        decide
      · rcases decimal.mem (List.mem_filter.2 ⟨hc, decide_eq_true comma⟩) with digit | rfl
        · exact isBlank_of_isDigit digit
        · decide
    rw [significant, trim_between (fun c hc => blank c (List.mem_append_left _ hc))
      (fun c hc => blank c (List.mem_append_right _ hc)) solid]
    exact decimal
  · intro decimal
    obtain ⟨before, after, split, blank⟩ := exists_trimmed text
    exact ⟨before, trim text, after, split, blank, decimal⟩

theorem oneNear_eq : oneNear = 10 ^ decimals := rfl

/-- What a decimal number is worth, in whole numbers. -/
theorem denoted_mul (short : fraction.length ≤ decimals) :
    denoted whole fraction * 10 ^ decimals =
      ((numberOf whole * oneNear + numberOf fraction * 10 ^ (decimals - fraction.length) : ℕ) : ℚ) := by
  have power : (10 : ℚ) ^ decimals = 10 ^ fraction.length * 10 ^ (decimals - fraction.length) := by
    rw [← pow_add, Nat.add_sub_cancel' short]
  rw [denoted, numberOf_append, oneNear_eq]
  push_cast
  rw [power]
  field_simp

/-- No text is worth two different amounts. -/
theorem Worth.unique {x y : ℚ} (hx : Worth text x) (hy : Worth text y) : x = y := by
  obtain ⟨whole, fraction, spelled, _, rfl⟩ := hx
  obtain ⟨whole', fraction', spelled', _, rfl⟩ := hy
  have same := (spells_iff.1 spelled).1.symm.trans (spells_iff.1 spelled').1
  obtain ⟨rfl, rfl⟩ := Prod.mk.inj same
  rfl

/-! ## Calculating with 128 bits -/

theorem ofYocto?_of_lt {n : Nat} (fits : n < bound) : ofYocto? n = some ⟨n, fits⟩ :=
  dif_pos fits

theorem ofYocto?_of_le {n : Nat} (large : bound ≤ n) : ofYocto? n = none :=
  dif_neg (Nat.not_lt_of_le large)

theorem ofYocto?_eq_some_iff {n : Nat} {a : Amount} : ofYocto? n = some a ↔ a.yocto = n := by
  obtain ⟨yocto, bounded⟩ := a
  constructor
  · intro made
    by_cases fits : n < bound
    · rw [ofYocto?_of_lt fits] at made
      exact (congrArg Amount.yocto (Option.some.inj made)).symm
    · rw [ofYocto?_of_le (Nat.le_of_not_lt fits)] at made
      cases made
  · rintro rfl
    exact ofYocto?_of_lt bounded

/-- Digits are read as their number, if it fits. -/
theorem ofDigits?_of_isDigit (filled : cs ≠ []) (digits : ∀ c ∈ cs, c.isDigit = true) :
    ofDigits? (String.ofList cs) = ofYocto? (numberOf cs) := by
  have all : cs.all Char.isDigit = true := List.all_eq_true.2 digits
  rw [ofDigits?, String.toList_ofList, readBelow_of_isDigit digits]
  by_cases fits : numberOf cs < bound
  · rw [readDigits, if_pos ⟨filled, all, fits⟩]
    rfl
  · rw [readDigits, if_neg fun h => fits h.2.2, ofYocto?_of_le (Nat.le_of_not_lt fits)]
    rfl

theorem ofRun?_of_isDigit (digits : ∀ c ∈ cs, c.isDigit = true) :
    ofRun? cs = ofYocto? (numberOf cs) := by
  unfold ofRun?
  split
  · next empty =>
    rw [empty]
    rfl
  · next filled => exact ofDigits?_of_isDigit filled digits

/-- Decimals are worth less than one NEAR. -/
theorem numberOf_mul_lt (digits : ∀ c ∈ fraction, c.isDigit = true) (short : fraction.length ≤ decimals) :
    numberOf fraction * 10 ^ (decimals - fraction.length) < oneNear := by
  calc numberOf fraction * 10 ^ (decimals - fraction.length)
      < 10 ^ fraction.length * 10 ^ (decimals - fraction.length) :=
        Nat.mul_lt_mul_of_pos_right (numberOf_lt digits) (Nat.pow_pos (by decide))
    _ = oneNear := by
        rw [← Nat.pow_add, Nat.add_sub_cancel' short]
        rfl

/-- **No overflow behind the point.** The power of ten, the number of the decimals and their product fit 128 bits
each, whatever the decimals are. -/
theorem ofDecimals?_of_isDigit (digits : ∀ c ∈ fraction, c.isDigit = true)
    (short : fraction.length ≤ decimals) :
    ∃ a, ofDecimals? fraction = some a ∧
      a.yocto = numberOf fraction * 10 ^ (decimals - fraction.length) := by
  have near : oneNear < bound := by decide
  have small := numberOf_mul_lt digits short
  unfold ofDecimals?
  split
  · next empty =>
    rw [empty]
    exact ⟨zero, rfl, rfl⟩
  · next filled =>
    have scaleFits : 10 ^ (decimals - fraction.length) < bound :=
      Nat.lt_of_le_of_lt (Nat.pow_le_pow_right (by decide) (Nat.sub_le _ _)) near
    have numberFits : numberOf fraction < bound := by
      have positive : 0 < 10 ^ (decimals - fraction.length) := Nat.pow_pos (by decide)
      exact Nat.lt_trans (Nat.lt_of_le_of_lt (Nat.le_mul_of_pos_right _ positive) small) near
    have productFits := Nat.lt_trans small near
    refine ⟨⟨_, productFits⟩, ?_, rfl⟩
    rw [ofDigits?_of_isDigit filled digits, ofYocto?_of_lt numberFits]
    show (ofYocto? (10 ^ (decimals - fraction.length))).bind _ = _
    rw [ofYocto?_of_lt scaleFits]
    exact ofYocto?_of_lt productFits

theorem mul?_one {n : Nat} (fits : n < bound) : mul? ⟨n, fits⟩ one = ofYocto? (n * oneNear) := rfl

theorem add?_mk {n : Nat} (fits : n < bound) (a : Amount) : add? ⟨n, fits⟩ a = ofYocto? (n + a.yocto) := rfl

/-- The amount of the digits before and behind the point is what they are worth, if that fits. -/
theorem ofParts?_of_isDigit (digits : ∀ c ∈ whole ++ fraction, c.isDigit = true)
    (short : fraction.length ≤ decimals) :
    ofParts? whole fraction =
      ofYocto? (numberOf whole * oneNear + numberOf fraction * 10 ^ (decimals - fraction.length)) := by
  obtain ⟨rest, readRest, worth⟩ :=
    ofDecimals?_of_isDigit (fun c hc => digits c (List.mem_append_right _ hc)) short
  rw [ofParts?, ofRun?_of_isDigit fun c hc => digits c (List.mem_append_left _ hc), readRest, ← worth]
  have positive : 1 ≤ oneNear := by decide
  -- The number before the point, its product and the sum only grow, so that the first that does not fit decides.
  by_cases numberFits : numberOf whole < bound
  · rw [ofYocto?_of_lt numberFits]
    rw [Option.bind_eq_bind, Option.bind_some, Option.bind_some, mul?_one]
    by_cases productFits : numberOf whole * oneNear < bound
    · rw [ofYocto?_of_lt productFits, Option.bind_some, add?_mk]
    · have large := Nat.le_of_not_lt productFits
      rw [ofYocto?_of_le large, ofYocto?_of_le (Nat.le_trans large (Nat.le_add_right _ _)),
        Option.bind_none]
  · have large := Nat.le_of_not_lt numberFits
    have product := Nat.le_trans large (Nat.le_mul_of_pos_right _ positive)
    rw [ofYocto?_of_le large, ofYocto?_of_le (Nat.le_trans product (Nat.le_add_right _ _))]
    rfl

/-! ## What is read -/

section

variable {text : String}

/-- The reader gets to the calculation with every decimal number, unless it has too many decimals. -/
theorem ofNear?_of_spells (spelled : Spells text.toList whole fraction) :
    ofNear? text =
      if decimals < fraction.length then .error (.amountDecimals text)
      else (ofParts? whole fraction).elim (.error (.amount text)) .ok := by
  obtain ⟨split, filled, digits⟩ := spells_iff.1 spelled
  have some : ¬ (whole = [] ∧ fraction = []) := by
    rintro ⟨rfl, rfl⟩
    exact filled rfl
  have all : (whole.all Char.isDigit && fraction.all Char.isDigit) = true := by
    rw [← List.all_append]
    exact List.all_eq_true.2 digits
  rw [ofNear?, split]
  dsimp only
  rw [if_neg some, all, Bool.not_true, if_neg Bool.false_ne_true]
  cases ofParts? whole fraction <;> rfl

/-- What is no decimal number is refused. -/
theorem ofNear?_of_not_spells (none : ∀ whole fraction, ¬ Spells text.toList whole fraction) :
    ofNear? text = .error (.amount text) := by
  rcases split : splitPoint (significant text.toList) with ⟨whole, fraction⟩
  rw [ofNear?, split]
  dsimp only
  split
  · rfl
  split
  · rfl
  · next filled digits =>
    refine absurd (spells_iff.2 ⟨split, ?_, ?_⟩) (none whole fraction)
    · rwa [ne_eq, List.append_eq_nil_iff]
    · rw [Bool.not_eq_true, Bool.not_eq_false', ← List.all_append] at digits
      exact List.all_eq_true.1 digits

/-- Unless there are too many decimals, the refusal is that the text is no amount. -/
theorem refused_as_amount {fault : InputFault} (refused : ofNear? text = .error fault)
    (short : ∀ whole fraction, Spells text.toList whole fraction → ¬ decimals < fraction.length) :
    fault = .amount text := by
  by_cases spelled : ∃ whole fraction, Spells text.toList whole fraction
  · obtain ⟨whole, fraction, spelled⟩ := spelled
    rw [ofNear?_of_spells spelled, if_neg (short whole fraction spelled)] at refused
    cases read : ofParts? whole fraction with
    | none =>
      rw [read] at refused
      cases refused
      rfl
    | some a =>
      rw [read] at refused
      cases refused
  · rw [ofNear?_of_not_spells fun whole fraction h => spelled ⟨whole, fraction, h⟩] at refused
    cases refused
    rfl

/-- A text is read as exactly what it is worth. -/
theorem ofNear?_eq_ok_iff {a : Amount} : ofNear? text = .ok a ↔ Worth text.toList a.yocto := by
  constructor
  · intro read
    by_cases spelled : ∃ whole fraction, Spells text.toList whole fraction
    · obtain ⟨whole, fraction, spelled⟩ := spelled
      rw [ofNear?_of_spells spelled] at read
      split at read
      · cases read
      · next long =>
        have short := Nat.le_of_not_lt long
        rw [ofParts?_of_isDigit (spells_iff.1 spelled).2.2 short] at read
        refine ⟨whole, fraction, spelled, short, ?_⟩
        rw [denoted_mul short, Nat.cast_inj]
        generalize numberOf whole * oneNear + _ = n at read ⊢
        cases made : ofYocto? n with
        | none =>
          rw [made] at read
          cases read
        | some b =>
          rw [made] at read
          cases read
          exact ofYocto?_eq_some_iff.1 made
    · rw [ofNear?_of_not_spells fun whole fraction h => spelled ⟨whole, fraction, h⟩] at read
      cases read
  · rintro ⟨whole, fraction, spelled, short, worth⟩
    rw [denoted_mul short, Nat.cast_inj] at worth
    rw [ofNear?_of_spells spelled, if_neg (Nat.not_lt_of_le short),
      ofParts?_of_isDigit (spells_iff.1 spelled).2.2 short, ofYocto?_eq_some_iff.2 worth]
    rfl

/-- An amount with at most 24 decimals is a whole number of yoctoNEAR. -/
theorem Worth.exists_nat {cs : List Char} {x : ℚ} (worth : Worth cs x) : ∃ n : ℕ, x = n := by
  obtain ⟨whole, fraction, _, short, rfl⟩ := worth
  exact ⟨_, denoted_mul short⟩

theorem cast_le_iff_lt_bound {n : ℕ} : (n : ℚ) ≤ 2 ^ 128 - 1 ↔ n < bound := by
  have largest : (2 : ℚ) ^ 128 - 1 = ((bound - 1 : ℕ) : ℚ) := by norm_num
  rw [largest, Nat.cast_le, Nat.le_sub_one_iff_lt (by decide)]

/-- **The reader accepts exactly the decimal numbers that fit.** A text is accepted if it is a decimal number of
NEAR, with commas anywhere in it and blanks around it, with at most 24 digits behind the point and worth at most
`2 ^ 128 - 1` yoctoNEAR; and it is read as exactly what it is worth. Every other text is refused, a decimal number
with more digits behind the point as that. Whenever the reader calculates, what the digits behind the point stand
for is calculated without an overflow. -/
theorem reads_exactly_decimals (text : String) :
    ((∃ a, ofNear? text = .ok a) ↔ ∃ x, Worth text.toList x ∧ x ≤ 2 ^ 128 - 1) ∧
    (∀ a x, ofNear? text = .ok a → Worth text.toList x → (a.yocto : ℚ) = x) ∧
    (∀ fault, ofNear? text = .error fault →
      (fault = .amount text ∧ ∀ x, Worth text.toList x → 2 ^ 128 - 1 < x) ∨
      (fault = .amountDecimals text ∧
        ∃ whole fraction, Spells text.toList whole fraction ∧ 24 < fraction.length)) ∧
    ∀ whole fraction, Spells text.toList whole fraction → fraction.length ≤ 24 →
      ∃ a, ofDecimals? fraction = some a := by
  have accepts : ∀ x, Worth text.toList x → x ≤ 2 ^ 128 - 1 → ∃ a, ofNear? text = .ok a := by
    intro x worth fits
    obtain ⟨n, rfl⟩ := worth.exists_nat
    exact ⟨⟨n, cast_le_iff_lt_bound.1 fits⟩, ofNear?_eq_ok_iff.2 worth⟩
  refine ⟨⟨?_, ?_⟩, ?_, ?_, ?_⟩
  · rintro ⟨a, read⟩
    exact ⟨a.yocto, ofNear?_eq_ok_iff.1 read, cast_le_iff_lt_bound.2 a.bounded⟩
  · rintro ⟨x, worth, fits⟩
    exact accepts x worth fits
  · intro a x read worth
    exact (ofNear?_eq_ok_iff.1 read).unique worth
  · intro fault refused
    by_cases long : ∃ whole fraction, Spells text.toList whole fraction ∧ 24 < fraction.length
    · obtain ⟨whole, fraction, spelled, many⟩ := long
      rw [ofNear?_of_spells spelled, if_pos (show decimals < _ from many)] at refused
      cases refused
      exact .inr ⟨rfl, whole, fraction, spelled, many⟩
    · refine .inl ⟨?_, fun x worth => ?_⟩
      · exact refused_as_amount refused fun whole fraction spelled many =>
          long ⟨whole, fraction, spelled, many⟩
      · refine not_le.1 fun fits => ?_
        obtain ⟨a, read⟩ := accepts x worth fits
        cases read.symm.trans refused
  · intro whole fraction spelled short
    obtain ⟨a, read, _⟩ := ofDecimals?_of_isDigit
      (fun c hc => (spells_iff.1 spelled).2.2 c (List.mem_append_right _ hc)) short
    exact ⟨a, read⟩

/-- The largest amount, written with a comma, a zero in front and blanks around it. One yoctoNEAR more does not
fit. -/
example : ofNear? " 0340282366920,938.463463374607431768211455 " = .ok ⟨bound - 1, by decide⟩ ∧
    ofNear? "340282366920938.463463374607431768211456" =
      .error (.amount "340282366920938.463463374607431768211456") := by
  constructor <;> decide +kernel

end

end Governance.Amount
