import Governance.Double.Shortest
import Governance.Json.Numeral

/-!
# Numbers of JSON

A free JSON number is an integer when its numeral is one between `-2 ^ 63` and `2 ^ 64 - 1`, and a
double otherwise; minus zero is a double too. A double is read by collecting digits while they fit a
64-bit word and multiplying or dividing once by a power of ten, each step rounded to the nearest
double. Main statement: an integer in range is read back from its numeral
(`ofNumeral?_ofInt`).
-/

namespace Governance.Json

open Governance.Text

/-- A free JSON number. An integer never equals a double. -/
inductive Number
  | integer (n : Int)
  | double (x : Double)
  deriving DecidableEq, Repr, Inhabited

namespace Number

/-- Whether an integer is one that a free JSON number can be: from `-2 ^ 63` to `2 ^ 64 - 1`. -/
def InRange (n : Int) : Prop :=
  -9223372036854775808 ≤ n ∧ n < 18446744073709551616

instance (n : Int) : Decidable (InRange n) :=
  inferInstanceAs (Decidable (_ ∧ _))

/-! ## Doubles from numerals -/

/-- Appends digits to a significand as long as it stays below `2 ^ 64`; gives the significand and the
digits that were left. -/
def collect (significand : Nat) : List Char → Nat × List Char
  | [] => (significand, [])
  | d :: ds =>
    let next := 10 * significand + numberOf [d]
    if next < UInt64.size then collect next ds else (significand, d :: ds)

/-- Divides by powers of ten that are themselves doubles: by `10 ^ 308` while more than that is left,
then by the rest. -/
def scaleDown : Nat → Nat → Double → Option Double
  | 0, _, _ => none
  | fuel + 1, power, x =>
    if x.isZero then some x
    else if power ≤ 308 then do x.div? (← Double.ofNat? false (Nat.pow 10 power))
    else do scaleDown fuel (power - 308) (← x.div? (← Double.ofNat? false (Nat.pow 10 308)))

/-- The significand times a power of ten as a double; `none` if it is too large. The significand is
below `2 ^ 64`, so that three divisions by `10 ^ 308` reach zero. -/
def scale (significand : Nat) (power : Int) : Option Double := do
  let x ← Double.ofNat? false significand
  if power < 0 then scaleDown 4 (-power).toNat x
  else if x.isZero then return x
  else if 308 < power then none
  else x.mul? (← Double.ofNat? false (Nat.pow 10 power.toNat))

/-- Powers of ten are read as far as a 32-bit word goes. -/
def greatestPower : Nat := 2147483647

/-- The double that a numeral denotes; `none` if it is too large. -/
def doubleOf? (n : Numeral) : Option Double := do
  let (whole, dropped) := collect 0 n.whole
  let fraction := n.fraction.getD []
  let (significand, unread) := collect whole fraction
  let power : Int := (dropped.length : Int) - ((fraction.length - unread.length : Nat) : Int)
  let magnitude ←
    match n.exponent with
    | none => scale significand power
    | some (sign, ds) =>
      let e := numberOf ds
      if greatestPower < e then
        if significand ≠ 0 ∧ sign ≠ ['-'] then none else some (Double.zero false)
      else scale significand (if sign = ['-'] then power - e else power + e)
  return magnitude.withSign n.negative

/-- The integer that an integer numeral denotes, unless it is minus zero. -/
def integerOf? (n : Numeral) : Option Int :=
  let m := numberOf n.whole
  if !n.isInteger then none
  else if n.negative then if m = 0 then none else some (-(m : Int))
  else some m

/-- The number that a numeral denotes; `none` if it is too large for a double. -/
def ofNumeral? (n : Numeral) : Option Number :=
  match integerOf? n with
  | some i => if InRange i then some (.integer i) else (doubleOf? n).map .double
  | none => (doubleOf? n).map .double

/-- The numeral of a double. -/
def numeralOfDouble (x : Double) : Numeral :=
  let l := x.layout
  { negative := x.negative
    whole := l.whole
    fraction := l.fraction
    exponent := l.power.map fun e => ([if e < 0 then '-' else '+'], digits e.natAbs) }

/-- The numeral of a number. -/
def toNumeral : Number → Numeral
  | .integer n => Numeral.ofInt n
  | .double x => numeralOfDouble x

/-- The number as a double: an integer in range is never too large for one. -/
def toDouble : Number → Double
  | .integer n => (Double.ofNat? (decide (n < 0)) n.natAbs).getD (Double.zero false)
  | .double x => x

/-- The same number with zero made positive: two numbers are equal iff these agree. -/
def unsignedZero : Number → Number
  | .integer n => .integer n
  | .double x => .double x.unsignedZero

theorem integerOf?_ofInt (n : Int) : integerOf? (Numeral.ofInt n) = some n := by
  by_cases neg : n < 0
  · have hn : n.natAbs ≠ 0 := by omega
    have back : -(n.natAbs : Int) = n := by omega
    simp only [integerOf?, Numeral.ofInt, Numeral.isInteger, neg, Option.isNone_none, Bool.and_self,
      Bool.not_true, Bool.false_eq_true, decide_true, if_true, if_false, numberOf_digits, hn, back]
  · have back : (n.natAbs : Int) = n := by omega
    simp only [integerOf?, Numeral.ofInt, Numeral.isInteger, neg, Option.isNone_none, Bool.and_self,
      Bool.not_true, Bool.false_eq_true, decide_false, if_false, numberOf_digits, back]

/-- An integer in range is read back from its numeral. -/
theorem ofNumeral?_ofInt {n : Int} (h : InRange n) :
    ofNumeral? (Numeral.ofInt n) = some (.integer n) := by
  simp [ofNumeral?, integerOf?_ofInt, h]

end Number

end Governance.Json
