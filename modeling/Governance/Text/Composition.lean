import Governance.Text.Composition.Pairs
import Governance.Text.Mark

/-!
# Canonical composition

The same writing can be spelled with a composite or with its parts, and marks that do not get in each
other's way can stand in any order. Composition gives every writing one spelling: composites are taken
apart, marks are put in the order of their classes, and what can be composed is composed. Composites
that composition never forms are not taken apart here. Main statements: a syllable of Hangul is
composed again from the parts it falls into (`syllable?_of_syllableParts?`), and ordering marks loses
and adds none (`perm_sortMarks`).
-/

namespace Governance.Text.Composition

/-! ## Syllables of Hangul -/

/-- The syllable of a leading consonant and a vowel, or of such a syllable and a trailing consonant. -/
def syllable? (a b : Nat) : Option Nat :=
  if 0x1100 ≤ a ∧ a < 0x1113 ∧ 0x1161 ≤ b ∧ b < 0x1176 then
    some (0xac00 + ((a - 0x1100) * 21 + (b - 0x1161)) * 28)
  else if 0xac00 ≤ a ∧ a < 0xd7a4 ∧ (a - 0xac00) % 28 = 0 ∧ 0x11a8 ≤ b ∧ b < 0x11c3 then
    some (a + (b - 0x11a7))
  else none

/-- The two parts that a syllable falls into: its trailing consonant is taken off first. -/
def syllableParts? (n : Nat) : Option (Nat × Nat) :=
  if 0xac00 ≤ n ∧ n < 0xd7a4 then
    let place := n - 0xac00
    if place % 28 = 0 then some (0x1100 + place / 588, 0x1161 + place % 588 / 28)
    else some (n - place % 28, 0x11a7 + place % 28)
  else none

/-- A syllable is composed again from its parts. -/
theorem syllable?_of_syllableParts? {n a b : Nat} (h : syllableParts? n = some (a, b)) :
    syllable? a b = some n := by
  unfold syllableParts? at h
  split at h
  · next range =>
    dsimp only at h
    split at h
    · next whole =>
      obtain ⟨rfl, rfl⟩ := Prod.mk.inj (Option.some.inj h)
      rw [syllable?, if_pos (by omega)]
      exact congrArg some (by omega)
    · next trailing =>
      obtain ⟨rfl, rfl⟩ := Prod.mk.inj (Option.some.inj h)
      rw [syllable?, if_neg (by omega), if_pos (by omega)]
      exact congrArg some (by omega)
  · cases h

/-! ## Parts and composites -/

/-- The two characters that a composite is composed of. No composite lies below `U+00C0`. -/
def parts? (n : Nat) : Option (Nat × Nat) :=
  if n < 0xc0 then none
  else (syllableParts? n).or ((pairs.find? fun (whole, _) => whole == n).map (·.2))

/-- The composite of two characters. The second one never lies below `U+0300`. -/
def compose? (a b : Char) : Option Char :=
  if b.toNat < 0x300 then none
  else ((syllable? a.toNat b.toNat).or
    ((pairs.find? fun (_, first, second) => first == a.toNat && second == b.toNat).map (·.1))).map
      Char.ofNat

/-- The code points that a code point falls into, if composites nest no deeper than `depth`. -/
def decompose : Nat → Nat → List Nat
  | 0, n => [n]
  | depth + 1, n =>
    match parts? n with
    | some (a, b) => decompose depth a ++ [b]
    | none => [n]

/-- How deep composites nest: a letter with three marks is the longest. -/
def nesting : Nat := 3

/-! ## The order of marks -/

/-- A character with its combining class. -/
abbrev Classified := Nat × Char

/-- Puts a character in front of a text, behind the marks that go before it: those of lower classes. -/
def settle (c : Classified) : List Classified → List Classified
  | [] => [c]
  | d :: ds => if 0 < d.1 ∧ d.1 < c.1 then d :: settle c ds else c :: d :: ds

/-- Sorts every run of marks by class, leaving marks of one class in their order. -/
def sortMarks (cs : List Classified) : List Classified :=
  cs.foldr settle []

theorem perm_settle (c : Classified) (cs : List Classified) : (settle c cs).Perm (c :: cs) := by
  induction cs with
  | nil => exact .refl _
  | cons d ds ih =>
    rw [settle]
    split
    · exact (ih.cons d).trans (.swap c d ds)
    · exact .refl _

/-- Sorting marks loses and adds no character. -/
theorem perm_sortMarks (cs : List Classified) : (sortMarks cs).Perm cs := by
  induction cs with
  | nil => exact .refl _
  | cons c cs ih => exact (perm_settle c _).trans (ih.cons c)

/-! ## Composition -/

/-- Composes a character with what follows it. `passed` are the marks that it has not been composed
with, the last one first, and `last` is the class of that one: a mark is out of reach behind a mark of
its own class or of a higher one, and so is a character that is no mark behind any. -/
def absorb (first : Char) (passed : List Char) (last : Nat) : List Classified → List Char
  | [] => first :: passed.reverse
  | (level, c) :: cs =>
    match if passed.isEmpty || last < level then compose? first c else none with
    | some whole => absorb whole passed last cs
    | none =>
      if level = 0 then first :: passed.reverse ++ absorb c [] 0 cs
      else absorb first (c :: passed) level cs

/-- Composes every character that is no mark with the marks behind it. -/
def recompose : List Classified → List Char
  | [] => []
  | (level, c) :: cs => if level = 0 then absorb c [] 0 cs else c :: recompose cs

/-- The text in its composed spelling. -/
def normalize (cs : List Char) : List Char :=
  recompose <| sortMarks <|
    (cs.flatMap fun c => (decompose nesting c.toNat).map Char.ofNat).map fun c => (combiningClass c, c)

end Governance.Text.Composition
