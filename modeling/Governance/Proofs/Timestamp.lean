import Governance.Timestamp

/-!
# Reading back a time

Reading a time is lenient: numbers may be short and blanks may stand between the parts. Writing never makes use
of that, so each part of a written time is split off as it was written. A part with a fixed number of digits
ends by their number (`readPart_padded`), and the others by the mark that follows (`readYear_yearChars`,
`readFraction_fractionChars`). Main statement: every time is read back from its text (`ofText?_toText`).
-/

namespace Governance

open Governance.Text

namespace Timestamp

/-! ## Runs of digits -/

theorem isDigit_of_mem_padded {width n : Nat} {c : Char} (h : c ∈ padded width n) :
    c.isDigit = true := by
  rw [padded, List.mem_append] at h
  rcases h with h | h
  · rw [List.eq_of_mem_replicate h]
    decide
  · exact isDigit_of_mem_digits h

theorem padded_ne_nil (width n : Nat) : padded width n ≠ [] := by
  rw [padded]
  exact List.append_ne_nil_of_right_ne_nil _ (digits_ne_nil n)

theorem padded_head (width n : Nat) : ∃ d ds, padded width n = d :: ds ∧ d.isDigit = true := by
  obtain ⟨d, ds, eq⟩ := List.exists_cons_of_ne_nil (padded_ne_nil width n)
  exact ⟨d, ds, eq, isDigit_of_mem_padded (by rw [eq]; exact List.mem_cons_self)⟩

/-- Leading zeros do not count. -/
theorem numberOf_padded (width n : Nat) : numberOf (padded width n) = n := by
  rw [numberOf, padded, Nat.ofDigitChars_append, Nat.ofDigitChars_replicate_zero, Nat.mul_zero]
  exact numberOf_digits n

theorem length_padded {width n : Nat} (wide : 0 < width) (fits : n < Nat.pow 10 width) :
    (padded width n).length = width := by
  have short : (digits n).length ≤ width :=
    (Nat.length_toDigits_le_iff (by decide) wide).2 fits
  rw [padded, List.length_append, List.length_replicate]
  omega

/-- Digits are split off up to where they end. -/
theorem takeWhile_digits {ds rest : List Char} (digits : ∀ c ∈ ds, c.isDigit = true)
    (ends : ∀ c, rest.head? = some c → c.isDigit = false) :
    (ds ++ rest).takeWhile Char.isDigit = ds := by
  rw [List.takeWhile_append_of_pos digits]
  cases rest with
  | nil => rw [List.takeWhile_nil, List.append_nil]
  | cons c cs => rw [List.takeWhile_cons_of_neg (by simp [ends c rfl]), List.append_nil]

/-- A run of digits is read that is as long as it may be, or that something else follows. -/
theorem readNumber_digits {most : Nat} {ds rest : List Char} (filled : ds ≠ [])
    (digits : ∀ c ∈ ds, c.isDigit = true) (fits : ds.length ≤ most)
    (ends : ds.length = most ∨ ∀ c, rest.head? = some c → c.isDigit = false) :
    readNumber most (ds ++ rest) = some (numberOf ds, rest) := by
  have taken : ((ds ++ rest).take most).takeWhile Char.isDigit = ds := by
    rw [List.take_append, List.take_of_length_le fits]
    refine takeWhile_digits digits ?_
    intro c hc
    rcases ends with full | next
    · rw [full, Nat.sub_self, List.take_zero] at hc
      cases hc
    · refine next c ?_
      rw [List.head?_take] at hc
      split at hc
      · cases hc
      · exact hc
  rw [readNumber, taken]
  cases ds with
  | nil => exact absurd rfl filled
  | cons d ds =>
    dsimp only
    rw [List.drop_left]

/-- A number of two digits is read. -/
theorem readPart_padded {n : Nat} (small : n < 100) (rest : List Char) :
    readPart (padded 2 n ++ rest) = some (n, rest) := by
  have long : (padded 2 n).length = 2 := length_padded (by decide) small
  have bare : trimStart (padded 2 n ++ rest) = padded 2 n ++ rest := by
    obtain ⟨d, ds, eq, digit⟩ := padded_head 2 n
    refine trimStart_of_head ?_
    intro c hc
    rw [eq] at hc
    cases hc
    exact isBlank_of_isDigit digit
  rw [readPart, bare, readNumber_digits (padded_ne_nil 2 n) (fun _ => isDigit_of_mem_padded)
    (Nat.le_of_eq long) (.inl long), numberOf_padded]

/-! ## The parts of a time -/

/-- A mark that is no blank is read. -/
theorem readMark_cons {c : Char} (filled : isBlank c = false) (rest : List Char) :
    readMark c (c :: rest) = some rest := by
  have bare : trimStart (c :: rest) = c :: rest := by
    refine trimStart_of_head ?_
    intro d hd
    cases hd
    exact filled
  rw [readMark, bare]
  exact if_pos rfl

/-- A year begins with a digit or a sign. -/
theorem yearChars_head (year : Int) : ∃ d ds, yearChars year = d :: ds ∧ isBlank d = false := by
  unfold yearChars
  split
  · obtain ⟨d, ds, eq, digit⟩ := padded_head 4 year.toNat
    exact ⟨d, ds, eq, isBlank_of_isDigit digit⟩
  · split
    · exact ⟨_, _, rfl, by decide⟩
    · exact ⟨_, _, rfl, by decide⟩

/-- A year is read up to the hyphen. -/
theorem readYear_yearChars (year : Int) (rest : List Char) :
    readYear (yearChars year ++ '-' :: rest) = some (year, '-' :: rest) := by
  have hyphen : ∀ c, ('-' :: rest).head? = some c → c.isDigit = false := by
    intro c hc
    cases hc
    decide
  have long : ∀ n : Nat, readLongNumber (padded 4 n ++ '-' :: rest) = some (n, '-' :: rest) := by
    intro n
    rw [readLongNumber, readNumber_digits (padded_ne_nil 4 n) (fun _ => isDigit_of_mem_padded)
      (by rw [List.length_append]; omega) (.inr hyphen), numberOf_padded]
  unfold yearChars
  split
  · next short =>
    have four : (padded 4 year.toNat).length = 4 :=
      length_padded (by decide) (by show year.toNat < 10000; omega)
    have read := readNumber_digits (padded_ne_nil 4 year.toNat) (fun _ => isDigit_of_mem_padded)
      (Nat.le_of_eq four) (.inl four : _ ∨ ∀ c, ('-' :: rest).head? = some c → c.isDigit = false)
    rw [numberOf_padded] at read
    obtain ⟨d, ds, eq, digit⟩ := padded_head 4 year.toNat
    rw [eq] at read
    rw [eq, List.cons_append, readYear, ← List.cons_append, read, Option.map_some]
    · dsimp only
      rw [Int.toNat_of_nonneg short.1]
    -- a digit is no sign, so the equations for signs do not apply
    · intro cs sign
      cases sign
      exact absurd digit (by decide)
    · intro cs sign
      cases sign
      exact absurd digit (by decide)
  · next far =>
    split
    · next negative =>
      rw [List.cons_append, readYear, long, Option.map_some]
      dsimp only
      rw [show -(year.natAbs : Int) = year by omega]
    · next positive =>
      rw [List.cons_append, readYear, long, Option.map_some]
      dsimp only
      rw [show (year.natAbs : Int) = year by omega]

/-- Up to nine digits after the point are so many parts of a second. -/
theorem readFraction_padded {width n : Nat} (wide : 0 < width) (most : width ≤ 9)
    (fits : n < Nat.pow 10 width) :
    readFraction ('.' :: padded width n ++ ['Z']) = some (n * Nat.pow 10 (9 - width), ['Z']) := by
  have long : (padded width n).length = width := length_padded wide fits
  have taken : ((padded width n ++ ['Z']).take 9).takeWhile Char.isDigit = padded width n := by
    rw [List.take_append, List.take_of_length_le (by omega)]
    refine takeWhile_digits (fun _ => isDigit_of_mem_padded) ?_
    intro c hc
    rw [List.head?_take] at hc
    split at hc
    · cases hc
    · cases hc
      decide
  rw [List.cons_append, readFraction, taken, if_neg (padded_ne_nil _ _), numberOf_padded, List.drop_left, long]
  rfl

/-- A fraction is read up to the end mark. -/
theorem readFraction_fractionChars {nano : Nat} (fits : nano < 1000000000) :
    readFraction (fractionChars nano ++ ['Z']) = some (nano, ['Z']) := by
  unfold fractionChars
  split
  · next none =>
    rw [none]
    rfl
  · split
    · next millis =>
      rw [readFraction_padded (by decide) (by decide) (by show _ < 1000; omega)]
      show some (nano / 1000000 * 1000000, _) = _
      rw [Nat.div_mul_cancel (Nat.dvd_of_mod_eq_zero millis)]
    · split
      · next micros =>
        rw [readFraction_padded (by decide) (by decide) (by show _ < 1000000; omega)]
        show some (nano / 1000 * 1000, _) = _
        rw [Nat.div_mul_cancel (Nat.dvd_of_mod_eq_zero micros)]
      · rw [readFraction_padded (by decide) (by decide) fits]
        show some (nano * 1, _) = _
        rw [Nat.mul_one]

/-! ## The whole time -/

/-- A clock that goes right is not moved. -/
theorem shift_zero {c : Clock} (valid : c.Valid) : c.shift 0 = c := by
  obtain ⟨_, hour, minute, _, _⟩ := valid
  have within : (((c.hour : Int) * 60 + c.minute + 0) % 1440).toNat = c.hour * 60 + c.minute := by
    omega
  have hours : (c.hour * 60 + c.minute) / 60 = c.hour := by omega
  have minutes : (c.hour * 60 + c.minute) % 60 = c.minute := by omega
  rw [Clock.shift, within, if_neg (by omega), if_neg (by omega), hours, minutes]

theorem ofLocal?_clock (t : Timestamp) : ofLocal? t.clock 0 = some t := by
  have valid := t.valid
  rw [ofLocal?, if_pos ⟨valid, by decide, by decide⟩, Int.neg_zero, shift_zero valid, dif_pos valid]

theorem daysInMonth_eq_zero {year : Int} {month : Nat} (h : 12 < month) :
    daysInMonth year month = 0 := by
  unfold daysInMonth
  split <;> omega

/-- A month that has days is one of twelve, and no month has more than 31 days. -/
theorem day_bounds {d : Day} (valid : d.Valid) : d.month ≤ 12 ∧ d.day ≤ 31 := by
  obtain ⟨_, _, first, last⟩ := valid
  refine ⟨?_, ?_⟩
  · refine Nat.le_of_not_lt ?_
    intro late
    rw [daysInMonth_eq_zero late] at last
    omega
  · refine Nat.le_trans last ?_
    unfold daysInMonth
    split
    · split <;> decide
    all_goals decide

/-- **A time is read back from its text.** -/
theorem ofText?_toText (t : Timestamp) : ofText? t.toText = some t := by
  obtain ⟨day, hour, minute, second, nano⟩ := t.valid
  obtain ⟨months, days⟩ := day_bounds day
  have bare : trimStart t.toChars = t.toChars := by
    obtain ⟨d, ds, eq, filled⟩ := yearChars_head t.clock.day.year
    refine trimStart_of_head ?_
    intro c hc
    rw [toChars, eq] at hc
    cases hc
    exact filled
  rw [ofText?, toText, String.toList_ofList, ofChars?, bare, toChars]
  simp only [List.append_assoc, List.cons_append, readYear_yearChars, Option.bind_eq_bind,
    Option.bind_some]
  -- the date, up to the divider
  rw [readMark_cons (by decide), Option.bind_some, readPart_padded (by omega), Option.bind_some,
    readMark_cons (by decide), Option.bind_some, readPart_padded (by omega), Option.bind_some]
  -- the time of day, from the divider on
  rw [show ∀ cs, readDivider ('T' :: cs) = some cs from fun _ => rfl, Option.bind_some,
    readPart_padded (by omega), Option.bind_some, readMark_cons (by decide), Option.bind_some,
    readPart_padded (by omega), Option.bind_some, readMark_cons (by decide), Option.bind_some,
    readPart_padded (by omega), Option.bind_some, readFraction_fractionChars nano, Option.bind_some]
  exact ofLocal?_clock t

end Timestamp

end Governance
