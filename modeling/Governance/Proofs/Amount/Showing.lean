import Governance.Proofs.Amount.Reading
import Governance.Proofs.Timestamp

/-!
# Showing amounts

An amount that is shown is a decimal number without needless zeros (`decimal_shownChars`). What it is worth is what
is left of the amount, once it has been brought up by half a unit of its last decimal, in whole units
(`worth_nearChars`). Such a multiple of the unit stays as it is when it is brought up and cut again
(`shownYocto_of_dvd`), and amounts with equally many whole units are shown alike (`shownChars_congr`). Main
statement: what is shown is read back, shown again as the same text, and keeps the order of the amounts
(`shown_reads_back`).
-/

namespace Governance.Amount

open Governance.Text

variable {n places : Nat}

/-! ## Multiples of a unit -/

/-- The multiple of a unit that is not above a number and less than a unit below it. -/
theorem div_mul_eq_of_dvd {u k m : Nat} (multiple : u ∣ k) (le : k ≤ m) (lt : m < k + u) :
    m / u * u = k := by
  obtain ⟨i, rfl⟩ := multiple
  have quotient : m / u = i := Nat.div_eq_of_lt_le (by rwa [Nat.mul_comm]) (by
    rw [Nat.succ_mul, Nat.mul_comm]
    exact lt)
  rw [quotient, Nat.mul_comm]

/-- One of the last of so many decimals, in yoctoNEAR. -/
def unit (places : Nat) : Nat :=
  10 ^ (decimals - places)

theorem unit_pos (places : Nat) : 0 < unit places :=
  Nat.pow_pos (by decide)

theorem oneNear_eq_mul_unit (few : places ≤ decimals) : oneNear = 10 ^ places * unit places := by
  rw [unit, ← Nat.pow_add, Nat.add_sub_cancel' few, oneNear_eq]

/-- Half of the unit is five of the next decimal. -/
theorem unit_eq_half_add_half (coarse : places < decimals) :
    unit places = 5 * 10 ^ (decimals - places - 1) + 5 * 10 ^ (decimals - places - 1) := by
  have next : decimals - places = decimals - places - 1 + 1 := by omega
  rw [unit, next, Nat.pow_succ, Nat.add_sub_cancel]
  omega

/-! ## Bringing up by half a unit -/

/-- As long as it fits, a number is brought up by half a unit. -/
theorem roundedUp_of_lt (coarse : places < decimals) :
    roundedUp n places = min (n + unit places / 2) (bound - 1) := by
  have half : unit places / 2 = 5 * 10 ^ (decimals - places - 1) := by
    rw [unit_eq_half_add_half coarse]
    omega
  rw [roundedUp, if_pos coarse, half]
  rfl

theorem roundedUp_decimals : roundedUp n decimals = n :=
  if_neg (Nat.lt_irrefl _)

/-- A number that fits is brought up by less than a unit, and to one that fits. -/
theorem roundedUp_bounds (few : places ≤ decimals) (fits : n < bound) :
    n ≤ roundedUp n places ∧ roundedUp n places < n + unit places ∧ roundedUp n places < bound := by
  have positive := unit_pos places
  rcases Nat.lt_or_eq_of_le few with coarse | rfl
  · rw [roundedUp_of_lt coarse]
    omega
  · rw [roundedUp_decimals]
    omega

theorem roundedUp_mono {m : Nat} (few : places ≤ decimals) (le : n ≤ m) :
    roundedUp n places ≤ roundedUp m places := by
  rcases Nat.lt_or_eq_of_le few with coarse | rfl
  · rw [roundedUp_of_lt coarse, roundedUp_of_lt coarse]
    omega
  · rwa [roundedUp_decimals, roundedUp_decimals]

/-! ## Digits behind the point -/

theorem isDigit_of_mem_fractionDigits {c : Char} (h : c ∈ fractionDigits n) : c.isDigit = true :=
  Timestamp.isDigit_of_mem_padded h

theorem length_fractionDigits (n : Nat) : (fractionDigits n).length = decimals :=
  Timestamp.length_padded (by decide) (Nat.mod_lt n (by decide))

theorem numberOf_fractionDigits (n : Nat) : numberOf (fractionDigits n) = n % oneNear :=
  Timestamp.numberOf_padded decimals _

/-- The decimals that are shown denote the whole units behind the point. -/
theorem numberOf_take_fractionDigits (n places : Nat) :
    numberOf ((fractionDigits n).take places) = n % oneNear / unit places := by
  rw [numberOf_take fun _ => isDigit_of_mem_fractionDigits, length_fractionDigits, numberOf_fractionDigits,
    unit]

theorem length_take_fractionDigits (few : places ≤ decimals) :
    ((fractionDigits n).take places).length = places := by
  rw [List.length_take, length_fractionDigits, Nat.min_eq_left few]

/-- What is dropped are zeros. -/
theorem exists_trailing_zeros (cs : List Char) :
    ∃ k, cs = dropTrailingZeros cs ++ List.replicate k '0' := by
  have zeros : ∀ c ∈ cs.reverse.takeWhile (· == '0'), c = '0' := fun c hc =>
    beq_iff_eq.1 (List.mem_takeWhile_imp (p := fun d : Char => d == '0') hc)
  have split := congrArg List.reverse
    (List.takeWhile_append_dropWhile (p := fun d : Char => d == '0') (l := cs.reverse))
  rw [List.reverse_append, List.reverse_reverse, List.eq_replicate_of_mem zeros, List.reverse_replicate] at split
  exact ⟨_, split.symm⟩

/-- No zero is left at the end. -/
theorem getLast?_dropTrailingZeros (cs : List Char) : (dropTrailingZeros cs).getLast? ≠ some '0' := by
  intro zero
  rw [dropTrailingZeros, List.getLast?_reverse] at zero
  have := List.head?_dropWhile_not (· == '0') cs.reverse
  rw [zero] at this
  exact absurd this (by decide)

theorem mem_of_mem_dropTrailingZeros {cs : List Char} {c : Char} (h : c ∈ dropTrailingZeros cs) : c ∈ cs := by
  obtain ⟨k, split⟩ := exists_trailing_zeros cs
  rw [split]
  exact List.mem_append_left _ h

/-- Zeros at the end do not change what is denoted. -/
theorem denoted_append_zeros (whole fraction : List Char) (k : Nat) :
    denoted whole (fraction ++ List.replicate k '0') = denoted whole fraction := by
  rw [denoted, denoted, ← List.append_assoc, numberOf_append, numberOf_zeros, List.length_append,
    List.length_replicate, Nat.add_zero, pow_add]
  push_cast
  exact mul_div_mul_right _ _ (pow_ne_zero _ (by norm_num))

/-! ## What is shown -/

/-- The decimals that are shown of a number of yoctoNEAR. -/
def shownDecimals (n places : Nat) : List Char :=
  dropTrailingZeros ((fractionDigits n).take places)

/-- A number of yoctoNEAR with at most so many decimals; the others are cut off. -/
def shownChars (n places : Nat) : List Char :=
  if shownDecimals n places = [] then digits (n / oneNear)
  else digits (n / oneNear) ++ '.' :: shownDecimals n places

/-- What is shown of an amount is worth so many yoctoNEAR. -/
def shownYocto (a : Amount) (places : Nat) : Nat :=
  roundedUp a.yocto (min places decimals) / unit places * unit places

theorem nearChars_eq (a : Amount) (places : Nat) :
    a.nearChars places = shownChars (roundedUp a.yocto (min places decimals)) (min places decimals) := rfl

theorem isDigit_of_mem_shownDecimals {c : Char} (h : c ∈ shownDecimals n places) : c.isDigit = true :=
  isDigit_of_mem_fractionDigits (List.mem_of_mem_take (mem_of_mem_dropTrailingZeros h))

theorem length_shownDecimals_le (n places : Nat) : (shownDecimals n places).length ≤ min places decimals := by
  obtain ⟨k, split⟩ := exists_trailing_zeros ((fractionDigits n).take places)
  have total := congrArg List.length split
  rw [List.length_take, length_fractionDigits, List.length_append] at total
  show (dropTrailingZeros _).length ≤ _
  omega

/-- What is shown is a decimal number. -/
theorem decimal_shownChars (n places : Nat) :
    Decimal (shownChars n places) (digits (n / oneNear)) (shownDecimals n places) := by
  have whole : ∀ c ∈ digits (n / oneNear), c.isDigit = true := fun _ => isDigit_of_mem_digits
  unfold shownChars
  split
  · next none =>
    rw [none]
    exact .plain whole (digits_ne_nil _)
  · refine .pointed (fun c hc => ?_) (List.append_ne_nil_of_left_ne_nil (digits_ne_nil _) _)
    rcases List.mem_append.1 hc with hc | hc
    · exact whole c hc
    · exact isDigit_of_mem_shownDecimals hc

/-- A decimal number without commas and blanks spells its digits. -/
theorem Decimal.spells {cs whole fraction : List Char} (decimal : Decimal cs whole fraction) :
    Spells cs whole fraction := by
  have solid : cs.filter (· ≠ ',') = cs := by
    refine List.filter_eq_self.2 fun c hc => decide_eq_true ?_
    rcases decimal.mem hc with digit | rfl
    · rintro rfl
      exact absurd digit (by decide)
    · decide
  refine ⟨[], cs, [], (List.append_nil cs).symm, nofun, ?_⟩
  rw [solid]
  exact decimal

/-- What is shown is worth the whole units of the last decimal. -/
theorem worth_shownChars (few : places ≤ decimals) :
    Worth (shownChars n places) (n / unit places * unit places : ℕ) := by
  have short := Nat.le_trans (length_shownDecimals_le n places) (Nat.min_le_right _ _)
  refine ⟨_, _, (decimal_shownChars n places).spells, short, ?_⟩
  obtain ⟨k, split⟩ := exists_trailing_zeros ((fractionDigits n).take places)
  have long := length_take_fractionDigits (n := n) few
  have units : n / unit places = n / oneNear * 10 ^ places + n % oneNear / unit places := by
    have whole := Nat.div_add_mod n oneNear
    rw [oneNear_eq_mul_unit few] at whole ⊢
    rw [Nat.mul_assoc, Nat.mul_left_comm] at whole
    conv_lhs => rw [← whole]
    rw [Nat.mul_add_div (unit_pos places), Nat.mul_comm]
  calc ((n / unit places * unit places : ℕ) : ℚ)
      = ((n / oneNear * oneNear + n % oneNear / unit places * unit places : ℕ) : ℚ) := by
        rw [units, Nat.add_mul, Nat.mul_assoc, ← oneNear_eq_mul_unit few]
    _ = denoted (digits (n / oneNear)) ((fractionDigits n).take places) * 10 ^ decimals := by
        rw [denoted_mul (by rw [long]; exact few), long, numberOf_take_fractionDigits, numberOf_digits, unit]
    _ = denoted (digits (n / oneNear)) (shownDecimals n places) * 10 ^ decimals := by
        rw [congrArg (denoted _) split, denoted_append_zeros]
        rfl

/-- Equally many whole units are shown alike. -/
theorem shownChars_congr {m : Nat} (few : places ≤ decimals) (same : n / unit places = m / unit places) :
    shownChars n places = shownChars m places := by
  have near : n / oneNear = m / oneNear := by
    rw [oneNear_eq_mul_unit few, Nat.mul_comm, ← Nat.div_div_eq_div_mul, ← Nat.div_div_eq_div_mul, same]
  have decimal : (fractionDigits n).take places = (fractionDigits m).take places := by
    refine eq_of_numberOf_eq (fun _ hc => isDigit_of_mem_fractionDigits (List.mem_of_mem_take hc))
      (fun _ hc => isDigit_of_mem_fractionDigits (List.mem_of_mem_take hc)) ?_ ?_
    · rw [length_take_fractionDigits few, length_take_fractionDigits few]
    · rw [numberOf_take_fractionDigits, numberOf_take_fractionDigits, oneNear_eq_mul_unit few,
        Nat.mul_comm, Nat.mod_mul_right_div_self, Nat.mod_mul_right_div_self, same]
  rw [shownChars, shownChars, shownDecimals, shownDecimals, near, decimal]

theorem unit_min (places : Nat) : unit (min places decimals) = unit places := by
  rw [unit, unit]
  congr 1
  omega

/-- What an amount is shown as is worth. -/
theorem worth_nearChars (a : Amount) (places : Nat) :
    Worth (a.nearChars places) (shownYocto a places : ℕ) := by
  have worth := worth_shownChars (n := roundedUp a.yocto (min places decimals)) (Nat.min_le_right places decimals)
  rw [unit_min] at worth
  rwa [nearChars_eq, shownYocto]

/-- What is shown of an amount is a multiple of the unit. -/
theorem unit_dvd_shownYocto (a : Amount) (places : Nat) : unit places ∣ shownYocto a places :=
  Nat.dvd_mul_left _ _

theorem shownYocto_lt (a : Amount) (places : Nat) : shownYocto a places < bound :=
  Nat.lt_of_le_of_lt (Nat.div_mul_le_self _ _)
    (roundedUp_bounds (Nat.min_le_right _ _) a.bounded).2.2

/-- A multiple of the unit is shown as it is. -/
theorem shownYocto_of_dvd {a : Amount} (multiple : unit places ∣ a.yocto) : shownYocto a places = a.yocto := by
  obtain ⟨lower, upper, _⟩ := roundedUp_bounds (Nat.min_le_right places decimals) a.bounded
  rw [unit_min] at upper
  exact div_mul_eq_of_dvd multiple lower upper

/-- More is never shown as less. -/
theorem shownYocto_mono {a b : Amount} (le : a.yocto ≤ b.yocto) (places : Nat) :
    shownYocto a places ≤ shownYocto b places :=
  Nat.mul_le_mul_right _ (Nat.div_le_div_right (roundedUp_mono (Nat.min_le_right _ _) le))

/-- Amounts that are worth the same when they are shown are shown alike. -/
theorem toNear_congr {a b : Amount} (same : shownYocto a places = shownYocto b places) :
    a.toNear places = b.toNear places := by
  have units := Nat.eq_of_mul_eq_mul_right (unit_pos places) same
  rw [toNear, toNear, nearChars_eq, nearChars_eq]
  rw [← unit_min] at units
  rw [shownChars_congr (Nat.min_le_right _ _) units]

/-- A decimal number has no other point than the one between its digits. -/
theorem Decimal.of_point {whole fraction before behind : List Char}
    (decimal : Decimal (before ++ '.' :: behind) whole fraction) : fraction = behind := by
  have point : ∀ {cs : List Char}, (∀ c ∈ cs, c.isDigit = true) → '.' ∉ cs := fun digits here =>
    absurd (digits '.' here) (by decide)
  generalize text : before ++ '.' :: behind = cs at decimal
  cases decimal with
  | plain digits _ =>
    refine absurd ?_ (point digits)
    rw [← text]
    exact List.mem_append_right _ List.mem_cons_self
  | pointed digits _ =>
    have apart := point digits
    rw [List.mem_append, not_or] at apart
    exact ((List.append_cons_inj_of_notMem apart.1 apart.2).1 text.symm).2.2

/-- What is shown has digits behind its point, the last of which is no zero. -/
theorem shownChars_pointed {before behind : List Char} (pointed : shownChars n places = before ++ '.' :: behind) :
    behind ≠ [] ∧ behind.getLast? ≠ some '0' ∧ behind.length ≤ min places decimals := by
  have decimal := decimal_shownChars n places
  rw [pointed] at decimal
  rw [← decimal.of_point]
  refine ⟨fun none => ?_, getLast?_dropTrailingZeros _, length_shownDecimals_le n places⟩
  have digit : '.' ∈ digits (n / oneNear) := by
    rw [shownChars, if_pos none] at pointed
    rw [pointed]
    exact List.mem_append_right _ List.mem_cons_self
  exact absurd (isDigit_of_mem_digits digit) (by decide)

/-! ## Reading what is shown -/

theorem toList_toNear (a : Amount) (places : Nat) : (a.toNear places).toList = a.nearChars places :=
  String.toList_ofList

theorem worth_toNear (a : Amount) (places : Nat) :
    Worth (a.toNear places).toList (shownYocto a places : ℕ) := by
  rw [toList_toNear]
  exact worth_nearChars a places

/-- What is shown is read as what it is worth. -/
theorem ofNear?_toNear (a : Amount) (places : Nat) :
    ofNear? (a.toNear places) = .ok ⟨shownYocto a places, shownYocto_lt a places⟩ :=
  ofNear?_eq_ok_iff.2 (worth_toNear a places)

/-- **Showing and reading fit together.** What is shown of an amount, with any number of decimals, is read as an
amount that is a multiple of the last decimal; it is the amount itself if all decimals are shown; it is shown as the
same text again; and a greater amount is not read as a smaller one. The text ends with no point, nor with a zero
behind a point, and has no more decimals than it may have. -/
theorem shown_reads_back (y : Amount) (d : Nat) :
    ∃ v, ofNear? (y.toNear d) = .ok v ∧
      10 ^ (24 - min d 24) ∣ v.yocto ∧
      (24 ≤ d → v = y) ∧
      v.toNear d = y.toNear d ∧
      (∀ y' v' : Amount, y.yocto ≤ y'.yocto → ofNear? (y'.toNear d) = .ok v' → v.yocto ≤ v'.yocto) ∧
      (y.toNear d).toList.getLast? ≠ some '.' ∧
      ∀ whole fraction, (y.toNear d).toList = whole ++ '.' :: fraction →
        fraction.getLast? ≠ some '0' ∧ fraction.length ≤ min d 24 := by
  refine ⟨⟨shownYocto y d, shownYocto_lt y d⟩, ofNear?_toNear y d, ?_, ?_, ?_, ?_, ?_, ?_⟩
  · have units := unit_dvd_shownYocto y d
    rw [← unit_min] at units
    exact units
  · intro all
    have whole : unit d = 1 := by
      rw [unit, Nat.sub_eq_zero_of_le (show decimals ≤ d from all), Nat.pow_zero]
    have same := shownYocto_of_dvd (a := y) (by rw [whole]; exact Nat.one_dvd _)
    obtain ⟨yocto, bounded⟩ := y
    exact (Amount.mk.injEq ..).mpr same
  · exact toNear_congr (shownYocto_of_dvd (unit_dvd_shownYocto y d))
  · intro y' v' le read
    rw [ofNear?_toNear] at read
    cases read
    exact shownYocto_mono le d
  · intro point
    rw [toList_toNear, nearChars_eq] at point
    obtain ⟨before, split⟩ := List.getLast?_eq_some_iff.1 point
    exact (shownChars_pointed split).1 rfl
  · intro whole fraction split
    rw [toList_toNear, nearChars_eq] at split
    obtain ⟨_, last, length⟩ := shownChars_pointed split
    rw [Nat.min_assoc] at length
    exact ⟨last, length⟩

end Governance.Amount
