import Governance.Text.Composition
import Governance.Text.Direction
import Governance.Text.Joining
import Governance.Text.Segments
import Governance.Url.Mapping
import Governance.Url.Punycode

/-!
# Domains

A domain is a text of labels between points. What is written is mapped and composed first; the result
must not have a character that delimits URLs. Each label is then taken for what it stands for, and must
not begin with a mark, have a joiner where there is nothing to join, or be too long to encode. If any
label is written from right to left, every label must keep to one direction.

Main statements: a label of letters, digits and hyphens is one that a domain can have
(`isLabel_of_ascii`), and ASCII labels are never written from right to left
(`hasRightToLeft_of_ascii`).
-/

namespace Governance.Url.Domain

open Governance.Text

/-- Whether a character is ASCII. -/
def isAscii (c : Char) : Bool :=
  decide (c.toNat < 0x80)

/-- ASCII characters that no domain has. -/
def isForbidden (c : Char) : Bool :=
  c.toNat ≤ 0x20 || c.toNat == 0x7f || "%#/:<>?@[\\]^|".toList.contains c

/-- The text that a text stands for in a domain, unless it has a character that no domain has. What is
composed is forbidden no more: a sign with a stroke through it is another sign. -/
def plain? (cs : List Char) : Option (List Char) := do
  let text := Composition.normalize (← Mapping.mapped? cs)
  if text.any isForbidden then none else some text

/-! ## Labels -/

/-- What an encoded label stands for; the text behind its mark is given. It has to be in the form that
stands for itself, and is read up to 2000 characters. -/
def decoded? (encoded : List Char) : Option (List Char) := do
  if encoded.isEmpty || encoded.getLast? == some '-' || 2000 < encoded.length ||
      !encoded.all isAscii then
    none
  let label ← Punycode.decode? encoded
  if plain? label = some label then some label else none

/-- What a label stands for. -/
def standing? : List Char → Option (List Char)
  | 'x' :: 'n' :: '-' :: '-' :: encoded => decoded? encoded
  | label => some label

/-- Whether a character asks for the form of its neighbours that joins them or keeps them apart. -/
def isJoiner (c : Char) : Bool :=
  c == '\u200c' || c == '\u200d'

/-- Whether a joiner has something to do between what stands before it, the last character first, and
what stands after it: behind a virama it has, and the one that keeps letters apart has so between
letters that would join. -/
def joinerFits (joiner : Char) (before after : List Char) : Bool :=
  match before with
  | [] => false
  | previous :: _ =>
    isVirama previous || (joiner == '\u200c' &&
      Joining.meets Joining.joinsNext before && Joining.meets Joining.joinsPrevious after)

/-- Whether every joiner has something to do; what stands before the text comes last character first. -/
def joinersFit (before : List Char) : List Char → Bool
  | [] => true
  | c :: after => (!isJoiner c || joinerFits c before after) && joinersFit (c :: before) after

/-- Whether a label is one that a domain can have; what it stands for is given. Labels to be encoded have
at most 1000 characters. -/
def isLabel (label : List Char) : Bool :=
  !label.head?.any isMark && joinersFit [] label && (label.all isAscii || label.length ≤ 1000)

/-! ## Directions -/

/-- Whether a character makes a domain one that is written from right to left in part. -/
def isRightToLeft (c : Char) : Bool :=
  Direction.ofChar c == .rightToLeft || Direction.ofChar c == .arabicNumber

/-- Whether a text has a character that is written from right to left. -/
def hasRightToLeft (cs : List Char) : Bool :=
  cs.any isRightToLeft

/-- Whether a label keeps to one direction: it begins with a letter, has no letter of the other
direction, ends with a letter or a digit but for marks, and digits of both kinds only from left to
right. -/
def keepsDirection : List Char → Bool
  | [] => true
  | first :: rest =>
    let directions := (rest.map Direction.ofChar).reverse.dropWhile (· == .nonspacingMark)
    match Direction.ofChar first, directions with
    | .leftToRight, [] | .rightToLeft, [] => true
    | .leftToRight, last :: middle =>
      (last == .leftToRight || last == .europeanNumber) &&
        middle.all fun d => d != .rightToLeft && d != .arabicNumber
    | .rightToLeft, last :: middle =>
      (last == .rightToLeft || last == .europeanNumber || last == .arabicNumber) &&
        middle.all (· != .leftToRight) &&
        !(directions.contains .europeanNumber && directions.contains .arabicNumber)
    | _, _ => false

/-! ## Domains -/

/-- Whether labels make a domain; what they stand for is given. -/
def areLabels (labels : List (List Char)) : Bool :=
  labels.all isLabel && (!labels.any hasRightToLeft || labels.all keepsDirection)

/-- The domain that a text denotes, with the labels that are encoded in it left so. -/
def ofText? (cs : List Char) : Option (List Char) := do
  let text ← plain? cs
  let labels ← (segments '.' text).mapM standing?
  if areLabels labels then some text else none

/-- ASCII characters have no joiners among them. -/
theorem joinersFit_of_ascii {cs : List Char} (before : List Char) (h : ∀ c ∈ cs, c.toNat < 0x80) :
    joinersFit before cs = true := by
  induction cs generalizing before with
  | nil => rfl
  | cons c cs ih =>
    have hc := h c List.mem_cons_self
    have plain : isJoiner c = false := by
      have ne : ∀ d : Char, 0x80 ≤ d.toNat → (c == d) = false := by
        intro d hd
        rw [beq_eq_false_iff_ne]
        rintro rfl
        omega
      rw [isJoiner, ne '\u200c' (by decide), ne '\u200d' (by decide)]
      rfl
    rw [joinersFit, plain, ih _ fun d hd => h d (List.mem_cons_of_mem _ hd)]
    rfl

/-- A label of ASCII characters is one that a domain can have. -/
theorem isLabel_of_ascii {label : List Char} (h : ∀ c ∈ label, c.toNat < 0x80) :
    isLabel label = true := by
  have ascii : label.all isAscii = true :=
    List.all_eq_true.2 fun c hc => decide_eq_true (h c hc)
  have head : label.head?.any isMark = false := by
    cases label with
    | nil => rfl
    | cons c cs => exact isMark_of_ascii (h c List.mem_cons_self)
  rw [isLabel, joinersFit_of_ascii [] h, ascii, head]
  rfl

/-- ASCII characters are never written from right to left. -/
theorem hasRightToLeft_of_ascii {cs : List Char} (h : ∀ c ∈ cs, c.toNat < 0x80) :
    hasRightToLeft cs = false := by
  rw [hasRightToLeft, List.any_eq_false]
  intro c hc
  simp [isRightToLeft, Direction.ofChar_ne_rightToLeft (h c hc),
    Direction.ofChar_ne_arabicNumber (h c hc)]

end Governance.Url.Domain
