/-!
# Base64

Bytes in the standard alphabet with padding. Decoding is strict: the padding has to complete the last
group of four, the unused bits of the last symbol have to be zero, and nothing else may occur. The
first fault that is met is reported, in this order: a length that leaves a single symbol over; then
symbol by symbol, where padding counts as a fault unless it ends the text; then the padding as a whole;
then the unused bits. Main statements: the alphabet is read back (`valueOf_symbol`), and encoding gives
four symbols for every three bytes (`length_encode`).
-/

namespace Governance.Text.Base64

/-- The symbols in the order of their values. -/
def alphabet : List Char :=
  "ABCDEFGHIJKLMNOPQRSTUVWXYZabcdefghijklmnopqrstuvwxyz0123456789+/".toList

/-- The symbol of a six-bit value. -/
def symbol (n : Nat) : Char :=
  if n < 26 then Char.ofNat (n + 65)
  else if n < 52 then Char.ofNat (n + 71)
  else if n < 62 then Char.ofNat (n - 4)
  else if n = 62 then '+' else '/'

/-- The value of a symbol, given by its code. -/
def valueOf (code : Nat) : Option Nat :=
  if 65 ≤ code ∧ code ≤ 90 then some (code - 65)
  else if 97 ≤ code ∧ code ≤ 122 then some (code - 71)
  else if 48 ≤ code ∧ code ≤ 57 then some (code + 4)
  else if code = 43 then some 62
  else if code = 47 then some 63
  else none

/-- Encodes bytes, three at a time. -/
def encode : List UInt8 → List Char
  | a :: b :: c :: bytes =>
    let n := a.toNat * 65536 + b.toNat * 256 + c.toNat
    symbol (n / 262144) :: symbol (n / 4096 % 64) :: symbol (n / 64 % 64) :: symbol (n % 64) ::
      encode bytes
  | [a, b] =>
    let n := a.toNat * 1024 + b.toNat * 4
    [symbol (n / 4096), symbol (n / 64 % 64), symbol (n % 64), '=']
  | [a] => [symbol (a.toNat / 4), symbol (a.toNat % 4 * 16), '=', '=']
  | [] => []

/-- Why a text is no encoding. -/
inductive Fault
  /-- A byte that is no symbol, or padding out of place. -/
  | byte (offset : Nat) (code : Nat)
  /-- One symbol too many. -/
  | length
  /-- A last symbol with unused bits that are not zero. -/
  | lastSymbol (offset : Nat) (code : Nat)
  /-- Padding that does not complete the last group. -/
  | padding
  deriving DecidableEq, Repr

/-- The words for a fault. -/
def Fault.message : Fault → String
  | .byte offset code => s!"Invalid byte {code}, offset {offset}."
  | .length => "Encoded text cannot have a 6-bit remainder."
  | .lastSymbol offset code => s!"Invalid last symbol {code}, offset {offset}."
  | .padding => "Invalid padding"

/-- The code of the padding. -/
def padCode : Nat := 61

/-- The values of symbols that stand from `offset` on; padding is no symbol. -/
def values (offset : Nat) : List Nat → Except Fault (List Nat)
  | [] => .ok []
  | code :: codes =>
    match valueOf code with
    | none => .error (.byte offset code)
    | some v => (values (offset + 1) codes).map (v :: ·)

/-- The values of the symbols of the last block, which stands from `offset` on and may end in padding.
`firstPad` is where padding has begun. Padding in the first half of a group of four is a fault, reported
where the padding began; so is a symbol after padding. -/
def lastValues (offset : Nat) (firstPad : Option Nat) : List Nat → Except Fault (List Nat)
  | [] => .ok []
  | code :: codes =>
    if code = padCode then
      if offset % 4 < 2 then .error (.byte (firstPad.getD offset) code)
      else lastValues (offset + 1) (some (firstPad.getD offset)) codes
    else
      match firstPad, valueOf code with
      | some pad, _ => .error (.byte pad padCode)
      | none, none => .error (.byte offset code)
      | none, some v => (lastValues (offset + 1) none codes).map (v :: ·)

/-- The bytes of a sequence of six-bit values; bits that fill no byte are dropped. -/
def bytesOf : List Nat → List UInt8
  | a :: b :: c :: d :: vs =>
    let n := a * 262144 + b * 4096 + c * 64 + d
    UInt8.ofNat (n / 65536) :: UInt8.ofNat (n / 256 % 256) :: UInt8.ofNat (n % 256) :: bytesOf vs
  | [a, b, c] =>
    let n := a * 4096 + b * 64 + c
    [UInt8.ofNat (n / 1024), UInt8.ofNat (n / 4 % 256)]
  | [a, b] => [UInt8.ofNat ((a * 64 + b) / 16)]
  | _ => []

/-- The bits of the last value that fill no byte, when there are `count` values. -/
def unusedBits (count last : Nat) : Nat :=
  match count % 4 with
  | 2 => last % 16
  | 3 => last % 4
  | _ => 0

/-- Decodes the codes of the bytes of a text. -/
def decode (codes : List Nat) : Except Fault (List UInt8) :=
  let size := codes.length
  if size % 4 = 1 then
    match codes.getLast? with
    | some code =>
      if code ≠ padCode ∧ (valueOf code).isNone then .error (.byte (size - 1) code)
      else .error .length
    | none => .error .length
  else do
    let start := (size - 1) / 8 * 8
    let front ← values 0 (codes.take start)
    let tail := codes.drop start
    let back ← lastValues start none tail
    if tail.length % 4 ≠ 0 then throw .padding
    match back.getLast? with
    | some last =>
      if unusedBits back.length last ≠ 0 then
        throw (.lastSymbol (start + back.length - 1) (tail.getD (back.length - 1) 0))
    | none => pure ()
    return bytesOf (front ++ back)

/-- Every value is read back from its symbol. -/
theorem valueOf_symbol : ∀ n : Nat, n < 64 → valueOf (symbol n).toNat = some n := by
  decide

/-- Three bytes make four symbols, and so does what is left at the end. -/
theorem length_encode : ∀ bytes : List UInt8, (encode bytes).length = (bytes.length + 2) / 3 * 4
  | [] => rfl
  | [_] => show 4 = (1 + 2) / 3 * 4 from rfl
  | [_, _] => show 4 = (2 + 2) / 3 * 4 from rfl
  | _ :: _ :: _ :: bytes => by
    have groups : (bytes.length + 2 + 3) / 3 = (bytes.length + 2) / 3 + 1 :=
      Nat.add_div_right _ (by decide)
    show (encode bytes).length + 4 = (bytes.length + 2 + 3) / 3 * 4
    rw [length_encode bytes, groups, Nat.add_mul]

end Governance.Text.Base64
