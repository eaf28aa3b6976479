import Governance.StringMap
import Governance.Text.Utf8
import Mathlib.Algebra.Order.Ring.Nat

/-!
# The order of texts

Texts are compared character by character, their bytes byte by byte. In UTF-8 both come to the same. A character is
a leading byte, which tells how many bytes follow, and the last digits of its code point to the base 64
(`Layout`). The more bytes follow, the greater is the leading byte (`leastLead_le`), and of as many digits
those of the lesser number are less (`continuation_append_lt`). So the bytes of the lesser one of two characters
are less, whatever stands behind them (`Layout.append_lt`). Main statement: `encode_lt_encode_iff`.
-/

namespace Governance.Text.Utf8

/-- Bytes are compared as the numbers that they stand for. -/
theorem ofNat_cons_lt_iff {m n : Nat} (hm : m < 256) (hn : n < 256) (xs ys : List UInt8) :
    UInt8.ofNat m :: xs < UInt8.ofNat n :: ys ↔ m < n ∨ m = n ∧ xs < ys := by
  have less : UInt8.ofNat m < UInt8.ofNat n ↔ m < n := UInt8.ofNat_lt_iff_lt hm hn
  have same : UInt8.ofNat m = UInt8.ofNat n ↔ m = n := by
    rw [← UInt8.toNat_inj, UInt8.toNat_ofNat_of_lt' hm, UInt8.toNat_ofNat_of_lt' hn]
  rw [List.cons_lt_cons_iff, less, same]

/-! ## The bytes of a character -/

/-- The last `count` digits of a number to the base 64, each in a byte that continues a character. -/
def continuation : Nat → Nat → List UInt8
  | 0, _ => []
  | count + 1, n => UInt8.ofNat (n / 64 ^ count % 64 + 128) :: continuation count n

/-- Bytes of digits are in the order of the numbers that the digits make, whatever follows them. -/
theorem continuation_append_lt (xs ys : List UInt8) {m n : Nat} :
    ∀ count, m % 64 ^ count < n % 64 ^ count →
      continuation count m ++ xs < continuation count n ++ ys := by
  intro count
  induction count with
  | zero =>
    intro h
    rw [Nat.pow_zero, Nat.mod_one, Nat.mod_one] at h
    exact absurd h (Nat.lt_irrefl 0)
  | succ count ih =>
    intro h
    rw [Nat.pow_succ, Nat.mod_mul, Nat.mod_mul] at h
    rw [continuation, continuation, List.cons_append, List.cons_append,
      ofNat_cons_lt_iff (by omega) (by omega)]
    have rest := Nat.mod_lt n (Nat.pow_pos (n := count) (show 0 < 64 by decide))
    -- the first digit decides unless it is the same
    rcases Nat.lt_trichotomy (m / 64 ^ count % 64) (n / 64 ^ count % 64) with less | same | greater
    · exact .inl (Nat.add_lt_add_right less 128)
    · rw [same] at h
      exact .inr ⟨by rw [same], ih (Nat.lt_of_add_lt_add_right h)⟩
    · have step := Nat.mul_le_mul_left (64 ^ count) (Nat.succ_le_of_lt greater)
      rw [Nat.mul_succ] at step
      omega

/-- The least byte that leads a character of so many further bytes. -/
def leastLead : Nat → Nat
  | 0 => 0
  | 1 => 192
  | 2 => 224
  | 3 => 240
  | _ => 248

/-- The least number above the code points that need no more than so many further bytes. -/
def codeBound : Nat → Nat
  | 0 => 128
  | 1 => 2048
  | 2 => 65536
  | _ => 1114112

/-- How a code point is laid out in bytes of which `count` follow the leading one. -/
structure Layout (count n : Nat) (bytes : List UInt8) : Prop where
  few : count < 4
  below : n < codeBound count
  above : 0 < count → codeBound (count - 1) ≤ n
  lead : leastLead count + n / 64 ^ count < leastLead (count + 1)
  bytes_eq : bytes = UInt8.ofNat (leastLead count + n / 64 ^ count) :: continuation count n

/-- Every character is laid out with one, two, three or four bytes. -/
theorem exists_layout (c : Char) : ∃ count, Layout count c.val.toNat (String.utf8EncodeChar c) := by
  have bound : c.val.toNat < 1114112 := by
    have valid : c.val.toNat < 55296 ∨ 57343 < c.val.toNat ∧ c.val.toNat < 1114112 := c.valid
    omega
  unfold String.utf8EncodeChar
  generalize c.val.toNat = n at bound
  -- one case for each number of bytes; the bits that are masked in the leading byte are zero
  dsimp only
  split
  · refine ⟨0, by decide, ?_, ?_, ?_, ?_⟩ <;> simp only [codeBound, leastLead, continuation]
    · omega
    · exact nofun
    · omega
    · rw [Nat.pow_zero, Nat.div_one, Nat.zero_add]
  split
  · have lead : n / 64 % 32 + 192 = 192 + n / 64 := by omega
    refine ⟨1, by decide, ?_, ?_, ?_, ?_⟩ <;> simp only [codeBound, leastLead, continuation]
    · omega
    · omega
    · omega
    · rw [lead, Nat.pow_zero, Nat.div_one, Nat.pow_one]
  split
  · have lead : n / 4096 % 16 + 224 = 224 + n / 4096 := by omega
    refine ⟨2, by decide, ?_, ?_, ?_, ?_⟩ <;> simp only [codeBound, leastLead, continuation]
    · omega
    · omega
    · omega
    · rw [lead, Nat.pow_zero, Nat.div_one, Nat.pow_one, show 64 ^ 2 = 4096 from rfl]
  · have lead : n / 262144 % 8 + 240 = 240 + n / 262144 := by omega
    refine ⟨3, by decide, ?_, ?_, ?_, ?_⟩ <;> simp only [codeBound, leastLead, continuation]
    · omega
    · omega
    · omega
    · rw [lead, Nat.pow_zero, Nat.div_one, Nat.pow_one, show 64 ^ 2 = 4096 from rfl,
        show 64 ^ 3 = 262144 from rfl]

/-- The leading bytes of shorter sequences are below those of longer ones. -/
theorem leastLead_le : ∀ many < 4, ∀ few < many, leastLead (few + 1) ≤ leastLead many := by
  decide

/-- What needs more bytes is above all that fewer bytes can hold. -/
theorem codeBound_le : ∀ many < 4, ∀ few < many, codeBound few ≤ codeBound (many - 1) := by
  decide

theorem Layout.lead_lt {count n : Nat} {bytes : List UInt8} (layout : Layout count n bytes) :
    leastLead count + n / 64 ^ count < 256 := by
  have greatest : ∀ count < 4, leastLead (count + 1) < 256 := by decide
  exact Nat.lt_trans layout.lead (greatest count layout.few)

/-- A greater code point takes no fewer bytes. -/
theorem Layout.count_le {few many m n : Nat} {bs cs : List UInt8} (first : Layout few m bs)
    (second : Layout many n cs) (h : m < n) : few ≤ many := by
  refine Nat.le_of_not_lt fun more => ?_
  have apart := codeBound_le few first.few many more
  have least := first.above (Nat.zero_lt_of_lt more)
  have below := second.below
  omega

/-- Of two code points the lesser one has the lesser bytes, whatever follows them. -/
theorem Layout.append_lt {few many m n : Nat} {bs cs : List UInt8} (first : Layout few m bs)
    (second : Layout many n cs) (h : m < n) (xs ys : List UInt8) : bs ++ xs < cs ++ ys := by
  rw [first.bytes_eq, second.bytes_eq, List.cons_append, List.cons_append,
    ofNat_cons_lt_iff first.lead_lt second.lead_lt]
  rcases Nat.lt_or_eq_of_le (first.count_le second h) with fewer | rfl
  · -- the leading bytes are apart
    have apart := leastLead_le many second.few few fewer
    exact .inl (Nat.lt_of_lt_of_le first.lead (Nat.le_trans apart (Nat.le_add_right _ _)))
  rcases Nat.lt_or_eq_of_le (Nat.div_le_div_right (c := 64 ^ few) (Nat.le_of_lt h)) with less | same
  · exact .inl (Nat.add_lt_add_left less _)
  · refine .inr ⟨by rw [same], continuation_append_lt xs ys few ?_⟩
    have whole := Nat.div_add_mod m (64 ^ few)
    have whole' := Nat.div_add_mod n (64 ^ few)
    rw [same] at whole
    omega

/-! ## The bytes of a text -/

/-- The bytes of a text are those of its characters. -/
theorem encode_eq_flatMap (s : String) : encode s = s.toList.flatMap String.utf8EncodeChar := by
  have bytes : s.toByteArray = (s.toList.flatMap String.utf8EncodeChar).toByteArray := by
    rw [← List.utf8Encode, ← String.toByteArray_ofList, String.ofList_toList]
  show s.toByteArray.data.toList = _
  rw [bytes, List.toList_data_toByteArray]

theorem encodeChars_lt {cs ds : List Char} (h : cs < ds) :
    cs.flatMap String.utf8EncodeChar < ds.flatMap String.utf8EncodeChar := by
  induction cs generalizing ds with
  | nil =>
    cases ds with
    | nil => exact absurd h (List.lt_irrefl _)
    | cons d ds =>
      obtain ⟨count, layout⟩ := exists_layout d
      rw [List.flatMap_nil, List.flatMap_cons, layout.bytes_eq]
      exact List.nil_lt_cons _ _
  | cons c cs ih =>
    cases ds with
    | nil => exact absurd h (List.not_lt_nil _)
    | cons d ds =>
      rw [List.flatMap_cons, List.flatMap_cons]
      rcases List.cons_lt_cons_iff.1 h with less | ⟨rfl, rest⟩
      · obtain ⟨few, first⟩ := exists_layout c
        obtain ⟨many, second⟩ := exists_layout d
        exact first.append_lt second less _ _
      · exact List.append_left_lt (ih rest)

/-- **The order of texts is the order of their bytes.** -/
theorem encode_lt_encode_iff {a b : String} : encode a < encode b ↔ a < b := by
  have mono : ∀ {a b : String}, a < b → encode a < encode b := by
    intro a b h
    rw [encode_eq_flatMap, encode_eq_flatMap]
    exact encodeChars_lt (String.lt_iff.1 h)
  refine ⟨fun h => ?_, mono⟩
  by_cases same : a = b
  · rw [same] at h
    exact absurd h (List.lt_irrefl _)
  by_cases less : a < b
  · exact less
  · exact absurd h (List.lt_asymm (mono (Entries.lt_of_not_lt_of_ne less same)))

end Governance.Text.Utf8
