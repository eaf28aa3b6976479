/-!
# String literals of JSON

Between quotation marks a text is written with escapes: the quotation mark and the backslash behind a
backslash, control characters by a short name or as `\u00xx`, everything else as it is. Reading also
takes the escaped slash and `\u` escapes of any 16-bit unit, two of which may spell one character
together. A literal with a lone surrogate is well formed, but no text is spelled by it, and so it is with a literal
in which bytes are not well-formed UTF-8 (`readBody_escape_illFormed`). Main statement: every written text is read
back (`readBody_escape`, `assemble_scalars`).
-/

namespace Governance.Json.Literal

/-! ## Writing -/

/-- A hexadecimal digit. -/
def hexDigit (n : Nat) : Char :=
  Nat.digitChar (n % 16)

/-- One character as a string literal spells it. -/
def escapeChar (c : Char) : List Char :=
  if c = '"' then ['\\', '"']
  else if c = '\\' then ['\\', '\\']
  else if c = '\x08' then ['\\', 'b']
  else if c = '\x0c' then ['\\', 'f']
  else if c = '\n' then ['\\', 'n']
  else if c = '\r' then ['\\', 'r']
  else if c = '\t' then ['\\', 't']
  else if c.toNat < 0x20 then ['\\', 'u', '0', '0', hexDigit (c.toNat / 16), hexDigit c.toNat]
  else [c]

/-- A text as a string literal spells it, without the quotation marks. -/
def escape (cs : List Char) : List Char :=
  cs.flatMap escapeChar

/-! ## Reading -/

/-- What a string literal is made of: characters, and surrogates written by `\u` escapes. -/
inductive Piece
  | scalar (c : Char)
  | surrogate (unit : Nat)
  deriving DecidableEq, Repr

/-- The value of a hexadecimal digit of either case. -/
def hexValue (c : Char) : Option Nat :=
  if c.isDigit then some (c.toNat - '0'.toNat)
  else if 'a' ≤ c ∧ c ≤ 'f' then some (c.toNat - 'a'.toNat + 10)
  else if 'A' ≤ c ∧ c ≤ 'F' then some (c.toNat - 'A'.toNat + 10)
  else none

/-- The 16-bit unit that four hexadecimal digits spell. -/
def hexUnit (a b c d : Char) : Option Nat := do
  return ((← hexValue a) * 16 + (← hexValue b)) * 256 + ((← hexValue c) * 16 + (← hexValue d))

/-- The piece that a 16-bit unit stands for. -/
def Piece.ofUnit (unit : Nat) : Piece :=
  if 0xd800 ≤ unit ∧ unit < 0xe000 then .surrogate unit else .scalar (Char.ofNat unit)

/-- The character that a one-letter escape stands for. -/
def unescape (c : Char) : Option Char :=
  match c with
  | '"' => some '"'
  | '\\' => some '\\'
  | '/' => some '/'
  | 'b' => some '\x08'
  | 'f' => some '\x0c'
  | 'n' => some '\n'
  | 'r' => some '\r'
  | 't' => some '\t'
  | _ => none

/-- Reads the rest of a string literal, up to its closing quotation mark: its pieces and what follows
the mark. Control characters and unknown escapes are refused. -/
def readBody : List Char → Option (List Piece × List Char)
  | [] => none
  | '"' :: cs => some ([], cs)
  | '\\' :: 'u' :: a :: b :: c :: d :: cs => do
    let unit ← hexUnit a b c d
    let (pieces, rest) ← readBody cs
    return (Piece.ofUnit unit :: pieces, rest)
  | '\\' :: e :: cs => do
    let c ← unescape e
    let (pieces, rest) ← readBody cs
    return (.scalar c :: pieces, rest)
  | c :: cs =>
    if c.toNat < 0x20 ∨ c = '\\' then none
    else do
      let (pieces, rest) ← readBody cs
      return (.scalar c :: pieces, rest)

/-- The text that pieces spell: a high surrogate and a low one make one character, and any other
surrogate spells nothing. -/
def assemble : List Piece → Option (List Char)
  | [] => some []
  | .scalar c :: ps => (assemble ps).map (c :: ·)
  | .surrogate hi :: .surrogate lo :: ps =>
    if hi < 0xdc00 ∧ 0xdc00 ≤ lo then
      (assemble ps).map (Char.ofNat (0x10000 + (hi - 0xd800) * 0x400 + (lo - 0xdc00)) :: ·)
    else none
  | .surrogate _ :: _ => none

/-! ## Bytes that spell no character -/

/-- What stands in a text for bytes that are not well-formed UTF-8: a character that no backslash escapes, and a low
surrogate, which nothing behind it completes. -/
def illFormed : List Char :=
  ['\uFFFD', '\\', 'u', 'd', 'c', '0', '0']

theorem assemble_low (ps : List Piece) : assemble (.surrogate 0xdc00 :: ps) = none := by
  match ps with
  | [] | .scalar _ :: _ => rfl
  | .surrogate lo :: ps =>
    rw [assemble, if_neg]
    exact fun pair => Nat.lt_irrefl _ pair.1

/-- A literal with ill-formed bytes spells no text. -/
theorem assemble_illFormed (ps qs : List Piece) :
    assemble (ps ++ .scalar '\uFFFD' :: .surrogate 0xdc00 :: qs) = none := by
  match ps with
  | [] => rw [List.nil_append, assemble, assemble_low, Option.map_none]
  | .scalar c :: ps => rw [List.cons_append, assemble, assemble_illFormed, Option.map_none]
  | [.surrogate _] | .surrogate _ :: .scalar _ :: ps => rfl
  | .surrogate hi :: .surrogate lo :: ps =>
    rw [List.cons_append, List.cons_append, assemble, assemble_illFormed, Option.map_none, ite_self]

/-! ## What is written is read -/

theorem assemble_scalars (cs : List Char) : assemble (cs.map .scalar) = some cs := by
  induction cs with
  | nil => rfl
  | cons c cs ih => simp [assemble, ih]

/-- A control character is read back from its `\u00xx` escape. -/
theorem hexUnit_control (n : Nat) (h : n < 0x20) :
    hexUnit '0' '0' (hexDigit (n / 16)) (hexDigit n) = some n := by
  revert h n
  decide

theorem readBody_plain {c : Char} {cs : List Char} (quote : c ≠ '"') (slash : c ≠ '\\')
    (visible : ¬ c.toNat < 0x20) :
    readBody (c :: cs) = (readBody cs).map fun (ps, rest) => (.scalar c :: ps, rest) := by
  rw [readBody.eq_def]
  split
  · next heq => cases heq
  · next heq => exact absurd (List.cons.inj heq).1 quote
  · next heq => exact absurd (List.cons.inj heq).1 slash
  · next heq => exact absurd (List.cons.inj heq).1 slash
  · next heq =>
    obtain ⟨rfl, rfl⟩ := List.cons.inj heq
    rw [if_neg (by simp [slash, visible])]
    cases readBody cs <;> rfl

theorem readBody_short {e c : Char} (h : unescape e = some c) (cs : List Char) :
    readBody ('\\' :: e :: cs) = (readBody cs).map fun (ps, rest) => (.scalar c :: ps, rest) := by
  rw [readBody.eq_def]
  split
  · next heq => cases heq
  · next heq => exact absurd (List.cons.inj heq).1 (by decide)
  · next heq =>
    obtain ⟨rfl, -⟩ := List.cons.inj (List.cons.inj heq).2
    cases h
  · next heq =>
    obtain ⟨rfl, rfl⟩ := List.cons.inj (List.cons.inj heq).2
    rw [h]
    cases readBody cs <;> rfl
  · next short heq =>
    obtain ⟨rfl, rfl⟩ := List.cons.inj heq
    exact absurd rfl (short e cs rfl)

/-- Ill-formed bytes may stand in a literal. -/
theorem readBody_illFormed (rest : List Char) :
    readBody (illFormed ++ rest) =
      (readBody rest).map fun (ps, rest) => (.scalar '\uFFFD' :: .surrogate 0xdc00 :: ps, rest) := by
  have unit : hexUnit 'd' 'c' '0' '0' = some 0xdc00 := by decide
  have low : readBody ('\\' :: 'u' :: 'd' :: 'c' :: '0' :: '0' :: rest) =
      (readBody rest).map fun (ps, rest) => (.surrogate 0xdc00 :: ps, rest) := by
    rw [readBody, unit]
    cases readBody rest <;> rfl
  refine (readBody_plain (by decide) (by decide) (by decide)).trans ?_
  show Option.map _ (readBody ('\\' :: 'u' :: 'd' :: 'c' :: '0' :: '0' :: rest)) = _
  rw [low, Option.map_map]
  rfl

/-- A character is read back from its spelling, whatever follows. -/
theorem readBody_escapeChar (c : Char) (rest : List Char) :
    readBody (escapeChar c ++ rest) =
      (readBody rest).map fun (ps, rest) => (.scalar c :: ps, rest) := by
  unfold escapeChar
  split
  · next h => subst h; exact readBody_short rfl rest
  split
  · next h => subst h; exact readBody_short rfl rest
  split
  · next h => subst h; exact readBody_short rfl rest
  split
  · next h => subst h; exact readBody_short rfl rest
  split
  · next h => subst h; exact readBody_short rfl rest
  split
  · next h => subst h; exact readBody_short rfl rest
  split
  · next h => subst h; exact readBody_short rfl rest
  split
  · next h =>
    simp only [List.cons_append, List.nil_append, readBody, hexUnit_control _ h]
    have : Piece.ofUnit c.toNat = .scalar c := by
      have : ¬ (0xd800 ≤ c.toNat ∧ c.toNat < 0xe000) := by omega
      simp [Piece.ofUnit, this]
    cases readBody rest <;> simp [this]
  · next quote slash _ _ _ _ _ visible => exact readBody_plain quote slash visible

/-- A written text is read back, whatever follows. -/
theorem readBody_escape_append (cs rest : List Char) :
    readBody (escape cs ++ rest) =
      (readBody rest).map fun (ps, rest) => (cs.map .scalar ++ ps, rest) := by
  induction cs with
  | nil =>
    show readBody rest = (readBody rest).map id
    rw [Option.map_id, id]
  | cons c cs ih =>
    rw [escape, List.flatMap_cons, List.append_assoc, readBody_escapeChar, ← escape, ih, Option.map_map]
    rfl

/-- A written text is read back up to its closing quotation mark. -/
theorem readBody_escape (cs rest : List Char) :
    readBody (escape cs ++ '"' :: rest) = some (cs.map .scalar, rest) := by
  rw [readBody_escape_append, readBody, Option.map_some]
  dsimp only
  rw [List.append_nil]

/-- A literal with ill-formed bytes is read to its end, and spells no text. -/
theorem readBody_escape_illFormed (cs ds rest : List Char) : ∃ ps,
    readBody (escape cs ++ (illFormed ++ (escape ds ++ '"' :: rest))) = some (ps, rest) ∧
      assemble ps = none := by
  refine ⟨cs.map .scalar ++ .scalar '\uFFFD' :: .surrogate 0xdc00 :: ds.map .scalar, ?_,
    assemble_illFormed _ _⟩
  rw [readBody_escape_append, readBody_illFormed, readBody_escape]
  rfl

end Governance.Json.Literal
