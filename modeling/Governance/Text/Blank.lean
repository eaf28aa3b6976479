/-!
# Blank characters

The characters that count as white space around a number or between words are those of Unicode's
`White_Space` property, not the ASCII ones alone: a no-break space is blank, a zero-width space is
not. Main statement: trimming leaves nothing blank at either end (`trim_head`, `trim_last`), and
`Char.isWhitespace` is a part of the class (`isBlank_of_isWhitespace`).
-/

namespace Governance.Text

/-- The characters of Unicode's `White_Space` property. -/
def isBlank (c : Char) : Bool :=
  let n := c.toNat
  (0x9 ≤ n && n ≤ 0xd) || n == 0x20 || n == 0x85 || n == 0xa0 || n == 0x1680 ||
    (0x2000 ≤ n && n ≤ 0x200a) || n == 0x2028 || n == 0x2029 || n == 0x202f || n == 0x205f ||
    n == 0x3000

/-- Every ASCII white space character is blank. -/
theorem isBlank_of_isWhitespace {c : Char} (h : c.isWhitespace = true) : isBlank c = true := by
  simp only [Char.isWhitespace, Bool.or_eq_true, decide_eq_true_eq] at h
  rcases h with ((rfl | rfl) | rfl) | rfl <;> rfl

/-- No digit is blank. -/
theorem isBlank_of_isDigit {c : Char} (h : c.isDigit = true) : isBlank c = false := by
  have bounds : 48 ≤ c.toNat ∧ c.toNat ≤ 57 := Char.isDigit_iff_toNat.1 h
  simp only [isBlank, Bool.or_eq_false_iff, Bool.and_eq_false_iff, beq_eq_false_iff_ne,
    decide_eq_false_iff_not]
  omega

/-- The text without the blanks it begins with. -/
def trimStart (cs : List Char) : List Char :=
  cs.dropWhile isBlank

/-- The text without the blanks at its two ends. -/
def trim (cs : List Char) : List Char :=
  (trimStart (trimStart cs).reverse).reverse

/-- Whether the text has a character that is not blank. -/
def isFilled (cs : List Char) : Bool :=
  cs.any fun c => !isBlank c

/-- The first word of a text: what stands before the next blank once the leading blanks are gone. -/
def firstWord (cs : List Char) : List Char :=
  (trimStart cs).takeWhile fun c => !isBlank c

/-- A text begins with no blank once its leading blanks are gone. -/
theorem trimStart_head {cs : List Char} {c : Char} (h : (trimStart cs).head? = some c) :
    isBlank c = false := by
  have := List.head?_dropWhile_not isBlank cs
  rw [trimStart] at h
  rw [h] at this
  simpa using this

/-- A text that begins with no blank stays as it is. -/
theorem trimStart_of_head {cs : List Char} (h : ∀ c, cs.head? = some c → isBlank c = false) :
    trimStart cs = cs := by
  cases cs with
  | nil => rfl
  | cons c cs => rw [trimStart, List.dropWhile_cons_of_neg (by simp [h c rfl])]

/-- A text without blanks stays as it is. -/
theorem trim_of_forall {cs : List Char} (h : ∀ c ∈ cs, isBlank c = false) : trim cs = cs := by
  have start : trimStart cs = cs :=
    trimStart_of_head fun c hc => h c (List.mem_of_head? hc)
  have back : trimStart cs.reverse = cs.reverse :=
    trimStart_of_head fun c hc => h c (List.mem_reverse.1 (List.mem_of_head? hc))
  rw [trim, start, back, List.reverse_reverse]

/-- Nothing blank is left at the beginning of a trimmed text. -/
theorem trim_head {cs : List Char} {c : Char} (h : (trim cs).head? = some c) : isBlank c = false := by
  have split : trimStart cs = trim cs ++ ((trimStart cs).reverse.takeWhile isBlank).reverse := by
    have := List.takeWhile_append_dropWhile (p := isBlank) (l := (trimStart cs).reverse)
    rw [trim, ← List.reverse_append]
    exact (List.reverse_eq_iff.2 this).symm
  have first : (trimStart cs).head? = some c := by
    rw [split, List.head?_append, h]
    rfl
  exact trimStart_head first

/-- Nothing blank is left at the end of a trimmed text. -/
theorem trim_last {cs : List Char} {c : Char} (h : (trim cs).getLast? = some c) :
    isBlank c = false := by
  rw [trim, List.getLast?_reverse] at h
  exact trimStart_head h

end Governance.Text
