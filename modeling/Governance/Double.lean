/-!
# Double-precision numbers

A finite double is a sign and a dyadic fraction: a significand below `2 ^ 53` times a power of two. All
arithmetic is done on natural numbers and rounded once, to the nearest double, a tie going to the
even significand; what lies beyond the largest double is refused instead of becoming infinite. Every
magnitude has one representation: the exponent is the least one possible, so that equal
representations and equal numbers are the same thing (zero has two signs).
-/

namespace Governance

/-- A finite double, `± significand · 2 ^ exponent`. -/
structure Double where
  /-- Whether the sign is minus; zero has a sign as well. -/
  negative : Bool
  /-- The significand. -/
  significand : Nat
  /-- The power of two. -/
  exponent : Int
  deriving DecidableEq, Repr, Inhabited

namespace Double

/-- The power of two of the smallest positive double. -/
def leastExponent : Int := -1074

/-- The power of two of the largest double. -/
def greatestExponent : Int := 971

/-- The highest bit of a full significand, `2 ^ 52`. -/
def leadingBit : Nat := 4503599627370496

/-- Zero, with a sign. -/
def zero (negative : Bool) : Double :=
  ⟨negative, 0, leastExponent⟩

/-- A quotient as `numerator / denominator`, multiplied by a power of two. -/
def scaledRatio (numerator denominator : Nat) (power : Int) : Nat × Nat :=
  if 0 ≤ power then (numerator <<< power.toNat, denominator)
  else (numerator, denominator <<< (-power).toNat)

/-- The integer nearest to a quotient; a tie goes to the even one. -/
def roundHalfEven (numerator denominator : Nat) : Nat :=
  let q := numerator / denominator
  let twice := 2 * (numerator % denominator)
  if twice < denominator then q
  else if denominator < twice then q + 1
  else q + q % 2

/-- The power of two in which a positive quotient lies: the greatest `e` with `2 ^ e` at most the
quotient. -/
def binade (numerator denominator : Nat) : Int :=
  let guess : Int := (Nat.log2 numerator : Int) - Nat.log2 denominator
  let (n, d) := scaledRatio numerator denominator (-guess)
  if n < d then guess - 1 else guess

/-- The double nearest to a quotient of natural numbers, with the given sign; `none` if the quotient
rounds beyond the largest double. -/
def ofRatio? (negative : Bool) (numerator denominator : Nat) : Option Double :=
  if numerator = 0 then some (zero negative)
  else
    let exponent := max (binade numerator denominator - 52) leastExponent
    let (n, d) := scaledRatio numerator denominator (-exponent)
    let m := roundHalfEven n d
    let (m, exponent) := if m = 2 * leadingBit then (leadingBit, exponent + 1) else (m, exponent)
    if greatestExponent < exponent then none else some ⟨negative, m, exponent⟩

/-- The magnitude of a double as a quotient of natural numbers. -/
def ratio (x : Double) : Nat × Nat :=
  scaledRatio x.significand 1 x.exponent

/-- The product of two doubles, rounded; `none` if it is too large. -/
def mul? (x y : Double) : Option Double :=
  let (a, b) := x.ratio
  let (c, d) := y.ratio
  ofRatio? (x.negative != y.negative) (a * c) (b * d)

/-- The quotient of two doubles, rounded; `none` if it is too large or the divisor is zero. -/
def div? (x y : Double) : Option Double :=
  let (a, b) := x.ratio
  let (c, d) := y.ratio
  if c = 0 then none else ofRatio? (x.negative != y.negative) (a * d) (b * c)

/-- The double nearest to a natural number; `none` if it is too large. -/
def ofNat? (negative : Bool) (n : Nat) : Option Double :=
  ofRatio? negative n 1

/-- Whether the double is a zero of either sign. -/
def isZero (x : Double) : Bool :=
  x.significand == 0

/-- The double with zero made positive: two doubles are the same number if these agree. -/
def unsignedZero (x : Double) : Double :=
  if x.isZero then zero false else x

/-- Whether the number is greater than one. -/
def exceedsOne (x : Double) : Bool :=
  let (n, d) := x.ratio
  !x.negative && decide (d < n)

/-- The same magnitude with the given sign. -/
def withSign (negative : Bool) (x : Double) : Double :=
  { x with negative }

end Double

end Governance
