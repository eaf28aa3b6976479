import Governance.Double

/-!
# The shortest decimal text of a double

Among the decimal numbers that round to a given double, those with the fewest significant digits are
taken, and of these the one nearest to the double; a tie goes to the even digit. The search goes
through the grids of one to seventeen digits: if a point of a grid rounds to the double, so does one of
the double's two neighbours on that grid, so only these are tried. How the digits are laid out is a
separate decision, `Layout`.
-/

namespace Governance.Double

/-- A positive decimal number, `digits · 10 ^ power`. -/
structure Decimal where
  /-- The digits, read as one natural number. -/
  digits : Nat
  /-- The power of ten. -/
  power : Int
  deriving DecidableEq, Repr

/-- The numbers that round to a positive double: an interval of quotients with a common denominator.
Its ends belong to it iff the significand is even. -/
structure Interval where
  /-- Numerator of the lower end. -/
  low : Nat
  /-- Numerator of the double itself. -/
  mid : Nat
  /-- Numerator of the upper end. -/
  high : Nat
  /-- The common denominator. -/
  denominator : Nat
  /-- Whether the ends round to the double. -/
  closed : Bool

/-- The interval of numbers that round to the magnitude of a double. Below a power of two the
neighbouring double is half as far away as above it. -/
def interval (x : Double) : Interval :=
  let below := if x.significand = leadingBit ∧ leastExponent < x.exponent then 1 else 2
  let scale := fun n => (scaledRatio n 4 x.exponent).1
  { low := scale (4 * x.significand - below)
    mid := scale (4 * x.significand)
    high := scale (4 * x.significand + 2)
    denominator := (scaledRatio 0 4 x.exponent).2
    closed := x.significand % 2 == 0 }

/-- Whether a decimal number rounds to the double. -/
def Interval.holds (i : Interval) (c : Decimal) : Bool :=
  let n := c.digits * Nat.pow 10 c.power.toNat * i.denominator
  let s := Nat.pow 10 (-c.power).toNat
  if i.closed then decide (i.low * s ≤ n ∧ n ≤ i.high * s)
  else decide (i.low * s < n ∧ n < i.high * s)

/-- The power of ten in which the double lies: the greatest `e` with `10 ^ e` at most the double. -/
def Interval.decade (i : Interval) : Int :=
  if i.denominator ≤ i.mid then ((Nat.toDigits 10 (i.mid / i.denominator)).length : Int) - 1
  else
    let guess := (Nat.toDigits 10 (i.denominator / i.mid)).length
    if i.denominator ≤ i.mid * Nat.pow 10 (guess - 1) then 1 - (guess : Int) else -(guess : Int)

/-- The double divided by a power of ten, as a quotient of natural numbers. -/
def Interval.over (i : Interval) (power : Int) : Nat × Nat :=
  (i.mid * Nat.pow 10 (-power).toNat, i.denominator * Nat.pow 10 power.toNat)

/-- The neighbour of the double on the grid of multiples of `10 ^ power` that rounds to it, if one
does; of two, the nearer one, and of two equally near the even one. -/
def Interval.onGrid (i : Interval) (power : Int) : Option Decimal :=
  let (n, d) := i.over power
  let lower : Decimal := ⟨n / d, power⟩
  let upper : Decimal := ⟨n / d + 1, power⟩
  match i.holds lower, i.holds upper with
  | false, false => none
  | true, false => some lower
  | false, true => some upper
  | true, true => some ⟨roundHalfEven n d, power⟩

/-- Moves the trailing zeros of the digits into the power of ten. -/
def Decimal.trimmed : Nat → Decimal → Decimal
  | 0, c => c
  | fuel + 1, c =>
    if c.digits ≠ 0 ∧ c.digits % 10 = 0 then trimmed fuel ⟨c.digits / 10, c.power + 1⟩ else c

/-- The first hit among the grids of `count` digits or more, up to seventeen. -/
def Interval.search (i : Interval) (decade : Int) : Nat → Option Decimal
  | 0 => none
  | left + 1 => (i.onGrid (decade - (16 - left : Nat))).or (i.search decade left)

/-- The shortest decimal number that rounds to the magnitude of a double. -/
def shortest (x : Double) : Decimal :=
  let i := x.interval
  Decimal.trimmed 20 ((i.search i.decade 17).getD ⟨0, 0⟩)

/-! ## Layout -/

/-- A laid out number: the digits before the point, those after it, and the power of ten. -/
structure Layout where
  /-- The digits before the point. -/
  whole : List Char
  /-- The digits after the point, if there is one. -/
  fraction : Option (List Char)
  /-- The power of ten, if one is written. -/
  power : Option Int
  deriving DecidableEq, Repr

/-- Decimal exponents from `-5` to `15` are written positionally, with at least one digit on each side
of the point; beyond, one digit stands before the point, which is left out if no digit follows, and the
power of ten comes last. -/
def layout (x : Double) : Layout :=
  if x.isZero then ⟨['0'], some ['0'], none⟩
  else
    let c := x.shortest
    let ds := Nat.toDigits 10 c.digits
    let exponent : Int := c.power + ds.length - 1
    let zeros := fun n : Int => List.replicate n.toNat '0'
    if exponent < -5 ∨ 16 ≤ exponent then
      ⟨ds.take 1, if ds.length = 1 then none else some (ds.drop 1), some exponent⟩
    else if exponent < 0 then ⟨['0'], some (zeros (-exponent - 1) ++ ds), none⟩
    else if 0 ≤ c.power then ⟨ds ++ zeros c.power, some ['0'], none⟩
    else ⟨ds.take (exponent.toNat + 1), some (ds.drop (exponent.toNat + 1)), none⟩

end Governance.Double
