import Governance.Json.Literal
import Governance.Json.Numeral

/-!
# Tokens of JSON

A JSON text is a sequence of tokens with white space between them. Main statement: the texts of a
sequence of writable tokens in which no two numbers touch are split into those very tokens again
(`lex_text`).
-/

namespace Governance.Json

/-- The smallest units of a JSON text. -/
inductive Token
  | openArray
  | closeArray
  | openObject
  | closeObject
  | comma
  | colon
  | null
  | bool (b : Bool)
  | number (n : Numeral)
  /-- A string literal: the text it spells, or `none` if a lone surrogate keeps it from spelling one. -/
  | string (s : Option String)
  deriving DecidableEq, Repr

namespace Token

/-- The characters of a token, without white space. -/
def text : Token → List Char
  | openArray => ['[']
  | closeArray => [']']
  | openObject => ['\x7b']
  | closeObject => ['\x7d']
  | comma => [',']
  | colon => [':']
  | null => ['n', 'u', 'l', 'l']
  | bool true => ['t', 'r', 'u', 'e']
  | bool false => ['f', 'a', 'l', 's', 'e']
  | number n => n.text
  | string s => '"' :: Literal.escape (s.getD "").toList ++ ['"']

/-- White space between tokens. -/
def isSpace (c : Char) : Bool :=
  c == ' ' || c == '\n' || c == '\r' || c == '\t'

/-- Splits a token off a text that begins with the given character. -/
def read (c : Char) (cs : List Char) : Option (Token × List Char) :=
  match c, cs with
  | '[', cs => some (openArray, cs)
  | ']', cs => some (closeArray, cs)
  | '\x7b', cs => some (openObject, cs)
  | '\x7d', cs => some (closeObject, cs)
  | ',', cs => some (comma, cs)
  | ':', cs => some (colon, cs)
  | 'n', 'u' :: 'l' :: 'l' :: cs => some (null, cs)
  | 't', 'r' :: 'u' :: 'e' :: cs => some (bool true, cs)
  | 'f', 'a' :: 'l' :: 's' :: 'e' :: cs => some (bool false, cs)
  | '"', cs =>
    (Literal.readBody cs).map fun (pieces, rest) =>
      (string ((Literal.assemble pieces).map String.ofList), rest)
  | c, cs => (Numeral.read (c :: cs)).map fun (n, rest) => (number n, rest)

/-- The tokens of a text; each takes one unit of fuel. -/
def lexWith : Nat → List Char → Option (List Token)
  | 0, cs => if (cs.dropWhile isSpace).isEmpty then some [] else none
  | fuel + 1, cs =>
    match cs.dropWhile isSpace with
    | [] => some []
    | c :: cs => do
      let (t, rest) ← read c cs
      let ts ← lexWith fuel rest
      return t :: ts

/-- The tokens of a text: as many units of fuel as there are characters are enough, because a token has
at least one. -/
def lex (cs : List Char) : Option (List Token) :=
  lexWith cs.length cs

/-- Writes tokens with white space of one's choice in front of each. -/
def spaced (ts : List (List Char × Token)) : List Char :=
  ts.flatMap fun (gap, t) => gap ++ t.text

/-! ## What is written is read -/

/-- Tokens whose text is read back: numbers that are, and strings that spell a text. -/
def Writable : Token → Prop
  | number n => (∃ c cs, n.text = c :: cs ∧ (c.isDigit ∨ c = '-')) ∧
      ∀ rest, Numeral.Ends rest → Numeral.read (n.text ++ rest) = some (n, rest)
  | string s => s.isSome
  | _ => True

/-- Whether a token is a number, the only kind whose text could run on into the next token. -/
def isNumber : Token → Bool
  | number _ => true
  | _ => false

theorem text_ne_nil {t : Token} (h : t.Writable) : t.text ≠ [] := by
  cases t with
  | number n =>
    obtain ⟨⟨c, cs, e, -⟩, -⟩ := h
    simp [text, e]
  | bool b => cases b <;> simp [text]
  | _ => simp [text]

/-- Writes the tokens next to each other. -/
def textOf (ts : List Token) : List Char :=
  ts.flatMap text

/-- No number is followed by another number, nor by anything but a writable token. -/
def Separated : List Token → Prop
  | [] => True
  | [t] => t.Writable
  | t :: u :: ts => t.Writable ∧ (t.isNumber → u.isNumber = false) ∧ Separated (u :: ts)

theorem Separated.tail {t : Token} {ts : List Token} (h : Separated (t :: ts)) : Separated ts := by
  cases ts with
  | nil => trivial
  | cons u ts => exact h.2.2

theorem Separated.head {t : Token} {ts : List Token} (h : Separated (t :: ts)) : t.Writable := by
  cases ts with
  | nil => exact h
  | cons u ts => exact h.1

/-- A number is ended by the text of whatever may follow it. -/
theorem Separated.ends {n : Numeral} {ts : List Token} (h : Separated (number n :: ts)) :
    Numeral.Ends (textOf ts) := by
  cases ts with
  | nil => intro c hc; cases hc
  | cons u ts =>
    have hu : u.isNumber = false := h.2.1 rfl
    intro c hc
    cases u with
    | number n => cases hu
    | bool b =>
      cases b <;> simp [textOf, text] at hc <;> subst hc <;> rfl
    | _ => simp [textOf, text] at hc; subst hc; rfl

/-- A writable token is split off again, whatever follows, if that ends it when it is a number. -/
theorem read_text {t : Token} (h : t.Writable) {rest : List Char}
    (ends : t.isNumber = true → Numeral.Ends rest) :
    ∃ c cs, t.text = c :: cs ∧ isSpace c = false ∧ read c (cs ++ rest) = some (t, rest) := by
  cases t with
  | number n =>
    obtain ⟨⟨c, cs, e, hc⟩, back⟩ := h
    have back := back rest (ends rfl)
    rw [e, List.cons_append] at back
    refine ⟨c, cs, e, ?_, ?_⟩
    · rcases hc with hc | rfl
      · simp only [isSpace, Bool.or_eq_false_iff, beq_eq_false_iff_ne]
        refine ⟨⟨⟨?_, ?_⟩, ?_⟩, ?_⟩ <;> rintro rfl <;> exact absurd hc (by decide)
      · rfl
    · have reads : ∀ d, c = d → d.isDigit = false → d ≠ '-' → False := by
        rintro d rfl hd hm
        rcases hc with hc | hc
        · exact absurd hc (by simp [hd])
        · exact hm hc
      unfold read
      split <;> first
        | exact (reads _ rfl (by decide) (by decide)).elim
        | skip
      rw [back]
      rfl
  | string s =>
    obtain ⟨s, rfl⟩ := Option.isSome_iff_exists.1 h
    refine ⟨'"', Literal.escape s.toList ++ ['"'], rfl, rfl, ?_⟩
    have : Literal.escape s.toList ++ ['"'] ++ rest = Literal.escape s.toList ++ '"' :: rest := by
      simp
    simp only [read, this, Literal.readBody_escape, Option.map_some,
      Literal.assemble_scalars, String.ofList_toList]
  | bool b => cases b <;> exact ⟨_, _, rfl, rfl, rfl⟩
  | _ => exact ⟨_, _, rfl, rfl, rfl⟩

theorem lexWith_text {ts : List Token} (h : Separated ts) {fuel : Nat} (enough : ts.length ≤ fuel) :
    lexWith fuel (textOf ts) = some ts := by
  induction ts generalizing fuel with
  | nil => cases fuel <;> rfl
  | cons t ts ih =>
    cases fuel with
    | zero => simp at enough
    | succ fuel =>
      have ends : t.isNumber = true → Numeral.Ends (textOf ts) := by
        cases t with
        | number n => exact fun _ => h.ends
        | _ => exact fun hn => nomatch hn
      obtain ⟨c, cs, e, space, hr⟩ := read_text h.head ends
      have split : textOf (t :: ts) = c :: (cs ++ textOf ts) := by
        simp [textOf, e]
      rw [split, lexWith, List.dropWhile_cons_of_neg (by simp [space])]
      simp only [hr]
      simp [ih h.tail (Nat.le_of_succ_le_succ enough)]

theorem length_le_textOf {ts : List Token} (h : Separated ts) : ts.length ≤ (textOf ts).length := by
  induction ts with
  | nil => exact Nat.zero_le _
  | cons t ts ih =>
    have := ih h.tail
    have := List.length_pos_iff.2 (text_ne_nil h.head)
    simp only [textOf, List.flatMap_cons, List.length_append, List.length_cons] at *
    omega

/-- Tokens written next to each other are split into the same tokens. -/
theorem lex_text {ts : List Token} (h : Separated ts) : lex (textOf ts) = some ts :=
  lexWith_text h (length_le_textOf h)

/-! ## White space does not matter -/

theorem dropWhile_gap {gap rest : List Char} (h : gap.all isSpace = true)
    (head : ∀ c cs, rest = c :: cs → isSpace c = false) :
    (gap ++ rest).dropWhile isSpace = rest := by
  induction gap with
  | nil =>
    cases rest with
    | nil => rfl
    | cons c cs => simp [head c cs rfl]
  | cons g gap ih =>
    simp only [List.all_cons, Bool.and_eq_true] at h
    simp [h.1, ih h.2]

theorem lexWith_spaced {ts : List (List Char × Token)}
    (h : ∀ p ∈ ts, p.1.all isSpace = true ∧ p.2.Writable ∧ p.2.isNumber = false) {fuel : Nat}
    (enough : ts.length ≤ fuel) : lexWith fuel (spaced ts) = some (ts.map Prod.snd) := by
  induction ts generalizing fuel with
  | nil => cases fuel <;> simp [lexWith, spaced]
  | cons p ts ih =>
    obtain ⟨gap, t⟩ := p
    obtain ⟨hgap, hw, hn⟩ := h (gap, t) List.mem_cons_self
    obtain ⟨c, cs, e, hc, back⟩ := @read_text t hw (spaced ts) fun number => by
      rw [hn] at number
      cases number
    cases fuel with
    | zero => simp at enough
    | succ fuel =>
      have tail := ih (fun q hq => h q (List.mem_cons_of_mem _ hq)) (Nat.le_of_succ_le_succ enough)
      have shape : spaced ((gap, t) :: ts) = gap ++ (c :: (cs ++ spaced ts)) := by
        simp [spaced, e]
      rw [shape, lexWith, dropWhile_gap hgap (by rintro _ _ ⟨⟩; exact hc)]
      simp [back, tail]

/-- Tokens are read back whatever white space stands in front of them. -/
theorem lex_spaced {ts : List (List Char × Token)}
    (h : ∀ p ∈ ts, p.1.all isSpace = true ∧ p.2.Writable ∧ p.2.isNumber = false) :
    lex (spaced ts) = some (ts.map Prod.snd) := by
  refine lexWith_spaced h ?_
  induction ts with
  | nil => exact Nat.zero_le _
  | cons p ts ih =>
    have := List.length_pos_iff.2 (text_ne_nil (h p List.mem_cons_self).2.1)
    have := ih fun q hq => h q (List.mem_cons_of_mem _ hq)
    simp only [spaced, List.flatMap_cons, List.length_append, List.length_cons] at *
    omega

end Token

end Governance.Json
