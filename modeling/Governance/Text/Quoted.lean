import Governance.Text.Visible

/-!
# Quoted texts in messages

A message shows a text that it complains about between quotation marks. Quotation marks and
backslashes inside it are escaped, the four common control characters have short names, and every
other character that does not show itself is written by its code point in hexadecimal. Main statement:
a text of visible characters without quotation mark and backslash is shown unchanged
(`escape_of_plain`).
-/

namespace Governance.Text

/-- One character as a quoted text shows it. -/
def escapeChar (c : Char) : List Char :=
  if c = '\x00' then ['\\', '0']
  else if c = '\t' then ['\\', 't']
  else if c = '\n' then ['\\', 'n']
  else if c = '\r' then ['\\', 'r']
  else if c = '"' ∨ c = '\\' then ['\\', c]
  else if showsItself c then [c]
  else ['\\', 'u', '\x7b'] ++ Nat.toDigits 16 c.toNat ++ ['\x7d']

/-- The characters of a text as a message shows them. -/
def escape (cs : List Char) : List Char :=
  cs.flatMap escapeChar

/-- A text between quotation marks, as a message shows it. -/
def quoted (s : String) : String :=
  String.ofList ('"' :: escape s.toList ++ ['"'])

/-- Visible characters other than the quotation mark and the backslash stand for themselves. -/
theorem escape_of_plain {cs : List Char}
    (h : ∀ c ∈ cs, showsItself c = true ∧ c ≠ '"' ∧ c ≠ '\\' ∧ 0x20 ≤ c.toNat) :
    escape cs = cs := by
  induction cs with
  | nil => rfl
  | cons c cs ih =>
    have hc := h c List.mem_cons_self
    have tail := ih fun d hd => h d (List.mem_cons_of_mem _ hd)
    have control : ∀ d : Char, d.toNat < 0x20 → c ≠ d := by
      rintro d hd rfl
      omega
    rw [escape, List.flatMap_cons]
    rw [escape] at tail
    rw [tail]
    simp [escapeChar, hc, control '\x00' (by decide), control '\t' (by decide),
      control '\n' (by decide), control '\r' (by decide)]

end Governance.Text
