/-!
# UTF-8

Bytes become text in two ways. Strictly, bytes that are not well-formed UTF-8 are no text; leniently,
something is put in place of each maximal piece of an ill-formed sequence: `U+FFFD` for readers, with a byte order
mark in front dropped, or a spelling of its own. Main statement: the bytes of a text are that text again
(`decode_encode`).
-/

namespace Governance.Text.Utf8

/-- The bytes of a text. -/
def encode (s : String) : List UInt8 :=
  s.toUTF8.data.toList

/-- The text of well-formed bytes. -/
def decode (bytes : List UInt8) : Option String :=
  String.fromUTF8? ⟨bytes.toArray⟩

/-- The bytes of a text are that text. -/
theorem decode_encode (s : String) : decode (encode s) = some s := by
  have valid : s.toByteArray.IsValidUTF8 := s.isValidUTF8
  simp only [decode, encode, Array.toArray_toList, String.fromUTF8?]
  show (if h : s.toByteArray.IsValidUTF8 then some (String.fromUTF8 s.toByteArray h) else none) = _
  rw [dif_pos valid]
  rfl

/-- How many bytes follow a leading byte, the least and the greatest second byte, and the bits that the
leading byte contributes; `none` if it leads no character of several bytes. -/
def lead (byte : Nat) : Option (Nat × Nat × Nat × Nat) :=
  if 0xc2 ≤ byte ∧ byte ≤ 0xdf then some (1, 0x80, 0xbf, byte - 0xc0)
  else if byte = 0xe0 then some (2, 0xa0, 0xbf, 0)
  else if byte = 0xed then some (2, 0x80, 0x9f, 0xd)
  else if 0xe1 ≤ byte ∧ byte ≤ 0xef then some (2, 0x80, 0xbf, byte - 0xe0)
  else if byte = 0xf0 then some (3, 0x90, 0xbf, 0)
  else if 0xf1 ≤ byte ∧ byte ≤ 0xf3 then some (3, 0x80, 0xbf, byte - 0xf0)
  else if byte = 0xf4 then some (3, 0x80, 0x8f, 4)
  else none

/-- A character that has begun: how many bytes are missing, the range of the next one, and the bits so
far. -/
structure Partial where
  missing : Nat
  least : Nat
  greatest : Nat
  bits : Nat

/-- The replacement for what is ill-formed. -/
def replacement : Char := '\uFFFD'

/-- Decodes bytes leniently, with the character that has begun; `ill` is put in place of what is ill-formed. A byte
that does not continue a character ends it ill-formed and is looked at afresh. -/
def lenient (ill : List Char) : Option Partial → List Nat → List Char
  | none, [] => []
  | some _, [] => ill
  | begun, byte :: bytes =>
    let fresh := fun _ : Unit =>
      if byte < 0x80 then Char.ofNat byte :: lenient ill none bytes
      else
        match lead byte with
        | none => ill ++ lenient ill none bytes
        | some (missing, least, greatest, bits) =>
          lenient ill (some ⟨missing, least, greatest, bits⟩) bytes
    match begun with
    | none => fresh ()
    | some p =>
      if p.least ≤ byte ∧ byte ≤ p.greatest then
        let bits := p.bits * 64 + byte % 64
        if p.missing = 1 then Char.ofNat bits :: lenient ill none bytes
        else lenient ill (some ⟨p.missing - 1, 0x80, 0xbf, bits⟩) bytes
      else ill ++ fresh ()

/-- The text of any bytes. -/
def decodeLenient (bytes : List UInt8) : String :=
  String.ofList (lenient [replacement] none
    (match bytes.map UInt8.toNat with
      | 0xef :: 0xbb :: 0xbf :: rest => rest
      | codes => codes))

/-- The text of any bytes, with a spelling for what is ill-formed. -/
def decodeWith (ill : List Char) (bytes : List UInt8) : String :=
  match decode bytes with
  | some text => text
  | none => String.ofList (lenient ill none (bytes.map UInt8.toNat))

theorem decodeWith_encode (ill : List Char) (s : String) : decodeWith ill (encode s) = s := by
  rw [decodeWith, decode_encode]

end Governance.Text.Utf8
