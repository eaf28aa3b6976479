import Governance.Json.Literal

/-!
# UUIDs

A UUID is a 128-bit word. It is written as 32 lower-case hexadecimal digits in groups of 8, 4, 4, 4 and
12, and read in either case, without hyphens, in groups, in groups between braces, or in groups after
`urn:uuid:`. Main statement: a written UUID is read back (`ofText?_toText`).
-/

namespace Governance

/-- A universally unique identifier. -/
structure Uuid where
  /-- The 128 bits, the first digit in the highest four. -/
  bits : BitVec 128
  deriving DecidableEq, Repr, Inhabited

namespace Uuid

open Json.Literal (hexValue)

/-- The last `count` hexadecimal digits of a number. -/
def hexDigits : Nat → Nat → List Char
  | 0, _ => []
  | count + 1, n => hexDigits count (n / 16) ++ [Nat.digitChar (n % 16)]

/-- The number that hexadecimal digits of either case denote, continued from `start`. -/
def numberOf? (start : Nat) : List Char → Option Nat
  | [] => some start
  | c :: cs => do numberOf? (16 * start + (← hexValue c)) cs

/-- The number of digits in each group. -/
def groups : List Nat := [8, 4, 4, 4, 12]

/-- Puts hyphens between groups of digits. -/
def join : List Nat → List Char → List Char
  | [], _ => []
  | [_], cs => cs
  | n :: ns, cs => cs.take n ++ '-' :: join ns (cs.drop n)

/-- Takes the hyphens between groups of digits away. -/
def split : List Nat → List Char → Option (List Char)
  | [], _ => none
  | [n], cs => if cs.length = n then some cs else none
  | n :: ns, cs =>
    match cs.drop n with
    | '-' :: rest => (split ns rest).map (cs.take n ++ ·)
    | _ => none

/-- The characters of a UUID. -/
def toChars (u : Uuid) : List Char :=
  join groups (hexDigits 32 u.bits.toNat)

/-- The text of a UUID. -/
def toText (u : Uuid) : String :=
  String.ofList u.toChars

/-- Reads 32 digits without hyphens. -/
def ofDigits? (cs : List Char) : Option Uuid :=
  if cs.length = 32 then (numberOf? 0 cs).map fun n => ⟨BitVec.ofNat 128 n⟩ else none

/-- Reads 32 digits in groups. -/
def ofGroups? (cs : List Char) : Option Uuid := do
  ofDigits? (← split groups cs)

/-- The name space of UUIDs among the URNs; it is read in either case. -/
def nameSpace : List Char := ['u', 'r', 'n', ':', 'u', 'u', 'i', 'd', ':']

/-- Takes the wrapping of a UUID in groups away: braces, or the name space of a URN. -/
def unwrap : List Char → List Char
  | '\x7b' :: cs =>
    match cs.reverse with
    | '\x7d' :: inner => inner.reverse
    | _ => '\x7b' :: cs
  | cs => if (cs.take 9).map Char.toLower = nameSpace then cs.drop 9 else cs

/-- Reads a UUID. -/
def ofText? (s : String) : Option Uuid :=
  if s.toList.length = 32 then ofDigits? s.toList else ofGroups? (unwrap s.toList)

/-! ## What is written is read -/

theorem length_hexDigits (count n : Nat) : (hexDigits count n).length = count := by
  induction count generalizing n with
  | zero => rfl
  | succ count ih => simp [hexDigits, ih]

theorem hexValue_digitChar : ∀ n : Nat, n < 16 → hexValue (Nat.digitChar n) = some n := by
  decide

theorem numberOf?_append (start : Nat) (cs ds : List Char) :
    numberOf? start (cs ++ ds) = (numberOf? start cs).bind fun n => numberOf? n ds := by
  induction cs generalizing start with
  | nil => rfl
  | cons c cs ih =>
    simp only [List.cons_append, numberOf?]
    cases hexValue c with
    | none => rfl
    | some d => exact ih _

theorem numberOf?_hexDigits (count n start : Nat) (h : n < Nat.pow 16 count) :
    numberOf? start (hexDigits count n) = some (Nat.pow 16 count * start + n) := by
  induction count generalizing n with
  | zero =>
    have h : n < 1 := h
    have : n = 0 := by omega
    simp [hexDigits, numberOf?, this]
  | succ count ih =>
    have step : Nat.pow 16 (count + 1) = Nat.pow 16 count * 16 := rfl
    have hn : n / 16 < Nat.pow 16 count := by
      rw [step] at h
      omega
    rw [hexDigits, numberOf?_append, ih (n / 16) hn]
    have hd := hexValue_digitChar (n % 16) (Nat.mod_lt _ (by decide))
    simp only [Option.bind_some, numberOf?, hd]
    simp only [Option.bind_eq_bind, Option.bind_some, Option.some.injEq]
    rw [step, Nat.mul_add, ← Nat.mul_assoc, Nat.mul_comm 16 (Nat.pow 16 count), Nat.add_assoc]
    omega

theorem split_join : ∀ (ns : List Nat) (cs : List Char), ns ≠ [] →
    cs.length = ns.foldr Nat.add 0 → split ns (join ns cs) = some cs
  | [n], cs, _, h => by
    have : cs.length = n := by simpa using h
    simp [split, join, this]
  | n :: m :: ns, cs, _, h => by
    have sum : cs.length = n + (m :: ns).foldr Nat.add 0 := h
    have hn : n ≤ cs.length := by
      rw [sum]
      exact Nat.le_add_right _ _
    have hlen : (cs.take n).length = n := by simp [hn]
    have ih := split_join (m :: ns) (cs.drop n) (by simp) (by
      rw [List.length_drop, sum]
      omega)
    rw [join, split]
    · rw [List.drop_append_of_le_length (by omega), List.drop_of_length_le (by omega),
        List.nil_append]
      simp only [ih, Option.map_some, Option.some.injEq]
      rw [List.take_append_of_le_length (by omega), List.take_of_length_le (by omega),
        List.take_append_drop]
    · intro e
      cases e
    · intro e
      cases e

theorem digitChar_ne_brace (n : Nat) : Nat.digitChar (n % 16) ≠ '\x7b' ∧
    (Nat.digitChar (n % 16)).toLower ≠ 'u' := by
  have : ∀ m : Nat, m < 16 →
      Nat.digitChar m ≠ '\x7b' ∧ (Nat.digitChar m).toLower ≠ 'u' := by decide
  exact this _ (Nat.mod_lt _ (by decide))

theorem hexDigits_head (count n : Nat) : ∃ m cs,
    hexDigits (count + 1) n = Nat.digitChar (m % 16) :: cs := by
  induction count generalizing n with
  | zero => exact ⟨n, [], rfl⟩
  | succ count ih =>
    obtain ⟨m, cs, e⟩ := ih (n / 16)
    exact ⟨m, cs ++ [Nat.digitChar (n % 16)], by rw [hexDigits, e, List.cons_append]⟩

theorem unwrap_toChars (u : Uuid) : unwrap u.toChars = u.toChars := by
  obtain ⟨m, cs, e⟩ := hexDigits_head 31 u.bits.toNat
  have : ∃ ds, u.toChars = Nat.digitChar (m % 16) :: ds := by
    rw [toChars, e]
    exact ⟨_, rfl⟩
  obtain ⟨ds, e⟩ := this
  obtain ⟨brace, letter⟩ := digitChar_ne_brace m
  rw [e]
  unfold unwrap
  split
  · next heq => exact absurd (List.cons.inj heq).1 brace
  · refine if_neg fun heq => letter ?_
    rw [List.take_succ_cons, List.map_cons, nameSpace] at heq
    exact (List.cons.inj heq).1

theorem length_toChars (u : Uuid) : u.toChars.length = 36 := by
  simp [toChars, groups, join, length_hexDigits]

/-- A written UUID is read back. -/
theorem ofText?_toText (u : Uuid) : ofText? u.toText = some u := by
  have hlen := length_toChars u
  have : ¬ u.toChars.length = 32 := by omega
  simp only [ofText?, toText, String.toList_ofList, if_neg this, unwrap_toChars, ofGroups?]
  rw [toChars, split_join _ _ (by decide) (by simp [length_hexDigits, groups])]
  have back := numberOf?_hexDigits 32 u.bits.toNat 0 u.bits.isLt
  simp [ofDigits?, length_hexDigits, back]

end Uuid

end Governance
