import Governance.Retry
import Mathlib.Data.List.TakeWhile

/-!
# The words of an error, read again

An endpoint reports its errors in words, and whether another attempt is worth while is decided on the words
alone (`isTransientRpc`): a text that begins like that of a failing gateway is judged by its status code, and any
other by the first word behind the first colon with a blank. This file says what is seen of a text that was put
together from parts: which colon is the first one (`afterColon_append_of_some`, `afterColon_append_of_none`),
which word the first one behind it (`seesTimeout_append_blank`, `seesTimeout_append_colon`), and which status
code is read (`failingGateway_append_cons`). Main statement: `isTransientRpc_iff`.
-/

namespace Governance

open Text

variable {xs ys b : List Char} {c : Char}

/-! ## Words -/

theorem takeWhile_append_of_stop {p : Char → Bool} (stop : p c = false) :
    (xs ++ c :: ys).takeWhile p = xs.takeWhile p := by
  rw [List.takeWhile_append, List.takeWhile_cons_of_neg (by simp [stop]), List.append_nil]
  split
  · next all => exact ((List.takeWhile_prefix p).eq_of_length all).symm
  · rfl

/-- A word is not changed by what stands behind the blank that ends it. -/
theorem firstWord_append_of_isFilled (filled : Text.isFilled b = true) (blank : isBlank c = true) :
    firstWord (b ++ c :: ys) = firstWord b := by
  obtain ⟨d, hd, plain⟩ := List.any_eq_true.1 filled
  have rest : ¬ (b.dropWhile isBlank).isEmpty = true := by
    intro empty
    have all := List.dropWhile_eq_nil_iff.1 (List.isEmpty_iff.1 empty)
    simp [all d hd] at plain
  unfold firstWord trimStart
  rw [List.dropWhile_append, if_neg rest]
  exact takeWhile_append_of_stop (by simp [blank])

theorem firstWord_append_of_not_isFilled (empty : Text.isFilled b = false) :
    firstWord (b ++ ys) = firstWord ys := by
  have blank : ∀ d ∈ b, isBlank d = true := by simpa [Text.isFilled] using empty
  unfold firstWord trimStart
  rw [List.dropWhile_append_of_pos blank]

/-- The first word is the name of the timeout. -/
def NamesTimeout (cs : List Char) : Prop :=
  firstWord cs = "TIMEOUT_ERROR".toList

instance (cs : List Char) : Decidable (NamesTimeout cs) :=
  inferInstanceAs (Decidable (_ = _))

theorem not_namesTimeout_cons (plain : isBlank c = false) (other : c ≠ 'T') :
    ¬ NamesTimeout (c :: xs) := by
  intro h
  unfold NamesTimeout firstWord at h
  rw [trimStart_of_head (by simp [plain]), List.takeWhile_cons_of_pos (by simp [plain])] at h
  exact other (List.cons.inj h).1

/-- What stands behind a blank does not matter, unless the name stands there. -/
theorem namesTimeout_append_blank (other : ¬ NamesTimeout ys) :
    NamesTimeout (b ++ ' ' :: ys) ↔ NamesTimeout b := by
  by_cases filled : Text.isFilled b = true
  · unfold NamesTimeout
    rw [firstWord_append_of_isFilled filled rfl]
  · rw [Bool.not_eq_true] at filled
    have none : firstWord b = [] := by
      have same : firstWord (b ++ []) = firstWord [] := firstWord_append_of_not_isFilled filled
      rwa [List.append_nil] at same
    constructor
    · intro h
      unfold NamesTimeout at h
      rw [firstWord_append_of_not_isFilled filled] at h
      exact absurd h other
    · intro h
      cases none.symm.trans h

/-- A text without blanks is its own first word. -/
theorem namesTimeout_iff_of_plain (plain : ∀ d ∈ b, isBlank d = false) :
    NamesTimeout b ↔ b = "TIMEOUT_ERROR".toList := by
  have whole : firstWord b = b := by
    unfold firstWord
    rw [trimStart_of_head fun d hd => plain d (List.mem_of_head? hd)]
    exact List.takeWhile_eq_self_iff.2 fun d hd => by simp [plain d hd]
  unfold NamesTimeout
  rw [whole]

/-! ## The first colon -/

/-- A colon with a blank stays the first one. -/
theorem afterColon_append_of_some (h : afterColon xs = some b) (ys : List Char) :
    afterColon (xs ++ ys) = some (b ++ ys) := by
  induction xs using afterColon.induct with
  | case1 cs =>
    cases h
    rfl
  | case2 c cs other ih =>
    rw [afterColon.eq_2 c cs other] at h
    rw [List.cons_append, afterColon.eq_2 _ _ ?_, ih h]
    intro rest colon blank
    cases cs with
    | nil => cases h
    | cons d cs =>
      cases blank
      exact other _ colon rfl
  | case3 => cases h

/-- What holds no colon with a blank is passed over, unless the two come together at its end. -/
theorem afterColon_append_of_none (h : afterColon xs = none)
    (apart : ∀ rest, xs.getLast? = some ':' → ys ≠ ' ' :: rest) :
    afterColon (xs ++ ys) = afterColon ys := by
  induction xs using afterColon.induct with
  | case1 cs => cases h
  | case2 c cs other ih =>
    rw [afterColon.eq_2 c cs other] at h
    rw [List.cons_append, afterColon.eq_2 _ _ ?_, ih h ?_]
    · intro rest last
      refine apart rest ?_
      cases cs with
      | nil => cases last
      | cons d cs => rwa [List.getLast?_cons_cons]
    · intro rest colon blank
      cases cs with
      | nil =>
        subst colon
        exact apart rest rfl blank
      | cons d cs =>
        cases blank
        exact other _ colon rfl
  | case3 => rfl

/-- The two come together at the end of a text that ends with a colon. -/
theorem afterColon_append_blank_of_last (h : afterColon xs = none) (last : xs.getLast? = some ':') :
    afterColon (xs ++ ' ' :: ys) = some ys := by
  obtain ⟨zs, rfl⟩ := List.getLast?_eq_some_iff.1 last
  have before : afterColon zs = none := by
    cases found : afterColon zs with
    | none => rfl
    | some rest => cases h.symm.trans (afterColon_append_of_some found [':'])
  rw [List.append_assoc]
  exact afterColon_append_of_none before fun rest _ => by simp

/-- The first word behind the first colon with a blank is the name of the timeout. -/
def SeesTimeout (cs : List Char) : Prop :=
  ∃ rest, afterColon cs = some rest ∧ NamesTimeout rest

/-- Behind a blank the name is seen only if nothing before it holds the colon, nor ends with one. -/
theorem seesTimeout_append_blank (other : ¬ NamesTimeout ys) :
    SeesTimeout (xs ++ ' ' :: ys) ↔
      SeesTimeout xs ∨ afterColon xs = none ∧ xs.getLast? ≠ some ':' ∧ SeesTimeout ys := by
  unfold SeesTimeout
  cases colon : afterColon xs with
  | some rest =>
    rw [afterColon_append_of_some colon]
    simp [namesTimeout_append_blank other]
  | none =>
    by_cases last : xs.getLast? = some ':'
    · rw [afterColon_append_blank_of_last colon last]
      simp [last, other]
    · have passes : afterColon (xs ++ ' ' :: ys) = afterColon ys := by
        rw [afterColon_append_of_none colon fun _ h => absurd h last]
        rfl
      rw [passes]
      simp [last]

/-- A name behind a colon is seen only if nothing before it holds the colon. Otherwise the colon sticks to what
stands before. -/
theorem seesTimeout_append_colon (other : ¬ NamesTimeout ys) :
    SeesTimeout (xs ++ ':' :: ' ' :: (b ++ ' ' :: ys)) ↔
      (∃ rest, afterColon xs = some rest ∧ NamesTimeout (rest ++ [':'])) ∨
        afterColon xs = none ∧ NamesTimeout b := by
  unfold SeesTimeout
  cases colon : afterColon xs with
  | some rest =>
    have sticks : NamesTimeout (rest ++ ':' :: ' ' :: (b ++ ' ' :: ys)) ↔
        NamesTimeout (rest ++ [':']) := by
      -- the name may follow as well, but a word has begun already
      have filled : Text.isFilled (rest ++ [':']) = true := by
        simp [Text.isFilled, show isBlank ':' = false from rfl]
      have word : firstWord ((rest ++ [':']) ++ ' ' :: (b ++ ' ' :: ys)) = _ :=
        firstWord_append_of_isFilled filled rfl
      rw [List.append_assoc] at word
      unfold NamesTimeout
      rw [← word]
      rfl
    rw [afterColon_append_of_some colon]
    simp [sticks]
  | none =>
    have found : afterColon (xs ++ ':' :: ' ' :: (b ++ ' ' :: ys)) = some (b ++ ' ' :: ys) :=
      afterColon_append_of_none colon fun rest _ => by simp
    rw [found]
    simp [namesTimeout_append_blank other]

/-! ## Beginnings -/

theorem afterStart_eq_some_iff (p : List Char) {cs rest : List Char} :
    afterStart p cs = some rest ↔ cs = p ++ rest := by
  induction p generalizing cs with
  | nil => simp [afterStart, eq_comm]
  | cons d p ih =>
    cases cs with
    | nil => simp [afterStart]
    | cons c cs =>
      unfold afterStart
      by_cases same : d = c
      · rw [if_pos same, ih, same]
        simp
      · rw [if_neg same]
        simp [Ne.symm same]

/-- A beginning without the character `c` ends before the first one. -/
theorem eq_append_of_append_cons {p rest : List Char} (apart : c ∉ p)
    (h : xs ++ c :: ys = p ++ rest) : ∃ r, xs = p ++ r ∧ rest = r ++ c :: ys := by
  rcases List.append_eq_append_iff.1 h with ⟨r, hp, hr⟩ | ⟨r, hx, hr⟩
  · cases r with
    | nil =>
      rw [List.append_nil] at hp
      exact ⟨[], by rw [hp, List.append_nil], hr.symm⟩
    | cons d r =>
      obtain ⟨rfl, _⟩ := List.cons.inj hr
      exact absurd (by rw [hp]; simp) apart
  · exact ⟨r, hx, hr⟩

/-- A gateway is named by a beginning without a colon. -/
theorem gateway_append_colon_iff {rest : List Char} :
    xs ++ ':' :: ys = "HTTP ".toList ++ rest ↔
      ∃ r, xs = "HTTP ".toList ++ r ∧ rest = r ++ ':' :: ys := by
  constructor
  · exact eq_append_of_append_cons (by decide)
  · rintro ⟨r, rfl, rfl⟩
    rw [List.append_assoc]

/-- The blank at the end of that beginning may be the one that follows the text. -/
theorem gateway_append_blank_iff {rest : List Char} :
    xs ++ ' ' :: ys = "HTTP ".toList ++ rest ↔
      (∃ r, xs = "HTTP ".toList ++ r ∧ rest = r ++ ' ' :: ys) ∨
        (xs = "HTTP".toList ∧ rest = ys) := by
  constructor
  · intro h
    have word : xs ++ ' ' :: ys = "HTTP".toList ++ ' ' :: rest := h
    obtain ⟨r, split, behind⟩ := eq_append_of_append_cons (by decide) word
    cases r with
    | nil =>
      rw [List.append_nil] at split
      exact .inr ⟨split, (List.cons.inj behind).2⟩
    | cons d r =>
      obtain ⟨rfl, same⟩ := List.cons.inj behind
      exact .inl ⟨r, split, same⟩
  · rintro (⟨r, rfl, rfl⟩ | ⟨rfl, rfl⟩)
    · rw [List.append_assoc]
    · rfl

/-- The text begins with the status code of a failing gateway. -/
def FailingGateway (cs : List Char) : Prop :=
  ∃ code ∈ ["500", "502", "503", "504"], code.toList <+: cs

/-- What stands behind a character that is no digit does not matter. -/
theorem failingGateway_append_cons (other : c.isDigit = false) :
    FailingGateway (xs ++ c :: ys) ↔ FailingGateway xs := by
  have digits : ∀ code ∈ ["500", "502", "503", "504"], code.toList.all Char.isDigit = true := by
    decide
  constructor
  · rintro ⟨code, listed, rest, h⟩
    have apart : c ∉ code.toList := by
      intro mem
      rw [List.all_eq_true.1 (digits code listed) c mem] at other
      cases other
    obtain ⟨r, split, _⟩ := eq_append_of_append_cons apart h.symm
    exact ⟨code, listed, r, split.symm⟩
  · rintro ⟨code, listed, start⟩
    exact ⟨code, listed, start.trans (List.prefix_append _ _)⟩

/-! ## Status codes -/

theorem exists_of_isDigit {c : Char} (h : c.isDigit = true) : ∃ i, i < 10 ∧ c.toNat = 48 + i := by
  have bounds : 48 ≤ c.toNat ∧ c.toNat ≤ 57 := Char.isDigit_iff_toNat.1 h
  exact ⟨c.toNat - 48, by omega, by omega⟩

theorem mem_of_readDigits {cs : List Char} {bound n : Nat} (read : readDigits bound cs = some n) :
    (∀ c ∈ cs, c.isDigit = true) ∧ numberOf cs = n := by
  unfold readDigits at read
  split at read
  · next fits => exact ⟨List.all_eq_true.1 fits.2.1, Option.some.inj read⟩
  · cases read

/-- Three characters that denote a number of three digits are its digits. -/
theorem toNat_of_readBelow {c d e : Char} {bound n : Nat} (read : readBelow bound [c, d, e] = some n)
    (large : 100 ≤ n) : ∃ i j k, i < 10 ∧ j < 10 ∧ k < 10 ∧ n = 100 * i + 10 * j + k ∧
      c.toNat = 48 + i ∧ d.toNat = 48 + j ∧ e.toNat = 48 + k := by
  unfold readBelow at read
  split at read
  · -- behind a sign there are but two digits
    next plus =>
    cases plus
    obtain ⟨digits, number⟩ := mem_of_readDigits read
    obtain ⟨j, hj, hd⟩ := exists_of_isDigit (digits d (by simp))
    obtain ⟨k, hk, he⟩ := exists_of_isDigit (digits e (by simp))
    have small : numberOf [d, e] = 10 * j + k := by
      simp [numberOf, Nat.ofDigitChars, hd, he]
    omega
  · obtain ⟨digits, number⟩ := mem_of_readDigits read
    obtain ⟨i, hi, hc⟩ := exists_of_isDigit (digits c (by simp))
    obtain ⟨j, hj, hd⟩ := exists_of_isDigit (digits d (by simp))
    obtain ⟨k, hk, he⟩ := exists_of_isDigit (digits e (by simp))
    have value : numberOf [c, d, e] = 100 * i + 10 * j + k := by
      simp [numberOf, Nat.ofDigitChars, hc, hd, he]
      omega
    exact ⟨i, j, k, hi, hj, hk, number.symm.trans value, hc, hd, he⟩

theorem eq_ofNat_of_toNat {c : Char} {n : Nat} (h : c.toNat = n) : c = Char.ofNat n := by
  rw [← h, Char.ofNat_toNat]

/-- The status code is read from the first three characters, and compared. -/
theorem statusOf_any_iff (cs : List Char) :
    ((statusOf cs).any fun code => [500, 502, 503, 504].contains code) = true ↔
      FailingGateway cs := by
  constructor
  · intro h
    obtain ⟨n, read, listed⟩ := (Option.any_eq_true _ _).1 h
    have listed : n = 500 ∨ n = 502 ∨ n = 503 ∨ n = 504 := by simpa using listed
    unfold statusOf at read
    split at read
    · next three =>
      obtain ⟨_, length⟩ := three
      rcases cs with _ | ⟨c, _ | ⟨d, _ | ⟨e, cs⟩⟩⟩
      · cases length
      · cases length
      · cases length
      obtain ⟨i, j, k, hi, hj, hk, split, hc, hd, he⟩ := toNat_of_readBelow read (by omega)
      have five : i = 5 := by omega
      have zero : j = 0 := by omega
      subst five zero
      rw [eq_ofNat_of_toNat hc, eq_ofNat_of_toNat hd, eq_ofNat_of_toNat he]
      have last : k = 0 ∨ k = 2 ∨ k = 3 ∨ k = 4 := by omega
      rcases last with rfl | rfl | rfl | rfl
      · exact ⟨"500", by decide, cs, rfl⟩
      · exact ⟨"502", by decide, cs, rfl⟩
      · exact ⟨"503", by decide, cs, rfl⟩
      · exact ⟨"504", by decide, cs, rfl⟩
    · cases read
  · rintro ⟨code, listed, rest, rfl⟩
    simp only [List.mem_cons, List.not_mem_nil, or_false] at listed
    rcases listed with rfl | rfl | rfl | rfl <;> rfl

/-- **How words are judged.** Words tell of a passing trouble if they are those of a gateway with a failing status
code; or if they are not those of a gateway, and the first word behind the first colon with a blank is the name
of the timeout. -/
theorem isTransientRpc_iff (text : String) : isTransientRpc text = true ↔
    (∃ rest, text.toList = "HTTP ".toList ++ rest ∧ FailingGateway rest) ∨
      (¬ "HTTP ".toList <+: text.toList) ∧ SeesTimeout text.toList := by
  unfold isTransientRpc
  cases start : afterStart "HTTP ".toList text.toList with
  | some rest =>
    have split := (afterStart_eq_some_iff _).1 start
    have begins : "HTTP ".toList <+: text.toList := ⟨rest, split.symm⟩
    show ((statusOf rest).any fun code => [500, 502, 503, 504].contains code) = true ↔ _
    rw [statusOf_any_iff, split]
    constructor
    · intro failing
      exact .inl ⟨rest, rfl, failing⟩
    · rintro (⟨rest', same, failing⟩ | ⟨other, _⟩)
      · rwa [List.append_cancel_left same]
      · exact absurd (List.prefix_append _ _) other
  | none =>
    have other : ¬ "HTTP ".toList <+: text.toList := by
      rintro ⟨rest, split⟩
      cases start.symm.trans ((afterStart_eq_some_iff _).2 split.symm)
    show ((afterColon text.toList).any fun rest => decide (firstWord rest = "TIMEOUT_ERROR".toList)) =
      true ↔ _
    constructor
    · intro h
      obtain ⟨rest, found, named⟩ := (Option.any_eq_true _ _).1 h
      exact .inr ⟨other, rest, found, of_decide_eq_true named⟩
    · rintro (⟨rest, split, _⟩ | ⟨_, rest, found, named⟩)
      · exact absurd ⟨rest, split.symm⟩ other
      · exact (Option.any_eq_true _ _).2 ⟨rest, found, decide_eq_true named⟩

end Governance
