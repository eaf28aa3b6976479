import Governance.Error
import Governance.Text.Blank
import Governance.Text.Decimal

/-!
# Amounts

Amounts of NEAR are counted in yoctoNEAR, `10 ^ 24` of which are one NEAR, and fit 128 bits. People write
them in NEAR, with at most 24 decimals; commas are for the eye only. An amount that is shown with fewer
decimals is rounded to the nearest one, a half upwards, and loses its trailing zeros.
-/

namespace Governance

open Governance.Text

/-- An amount in yoctoNEAR. -/
structure Amount where
  /-- The number of yoctoNEAR. -/
  yocto : Nat
  /-- It fits 128 bits. -/
  bounded : yocto < 340282366920938463463374607431768211456
  deriving DecidableEq

namespace Amount

instance : Inhabited Amount := ⟨⟨0, by decide⟩⟩

/-- What no amount reaches, `2 ^ 128`. -/
abbrev bound : Nat := 340282366920938463463374607431768211456

/-- The number of decimals of one NEAR. -/
def decimals : Nat := 24

/-- One NEAR in yoctoNEAR. -/
def oneNear : Nat := 1000000000000000000000000

/-- Nothing. -/
def zero : Amount := ⟨0, by decide⟩

/-- One NEAR. -/
def one : Amount := ⟨oneNear, by decide⟩

/-- The amount of a number of yoctoNEAR, if it fits. -/
def ofYocto? (n : Nat) : Option Amount :=
  if h : n < bound then some ⟨n, h⟩ else none

/-- The sum, if it fits. -/
def add? (a b : Amount) : Option Amount :=
  ofYocto? (a.yocto + b.yocto)

/-- The product of two numbers, if it fits. -/
def mul? (a b : Amount) : Option Amount :=
  ofYocto? (a.yocto * b.yocto)

/-- The number of yoctoNEAR in digits. -/
def toDigits (a : Amount) : String :=
  String.ofList (digits a.yocto)

/-- Reads a number of yoctoNEAR. -/
def ofDigits? (s : String) : Option Amount :=
  (readBelow bound s.toList).bind ofYocto?

/-! ## Amounts in NEAR -/

/-- What counts of a written amount: blanks at the ends and commas do not. -/
def significant (cs : List Char) : List Char :=
  (trim cs).filter (· ≠ ',')

/-- The part before the first point and the part after it, which is empty if there is no point. -/
def splitPoint (cs : List Char) : List Char × List Char :=
  (cs.takeWhile (· ≠ '.'), (cs.dropWhile (· ≠ '.')).drop 1)

/-- The number that a run of digits denotes, if it fits; no digits denote zero. -/
def ofRun? (ds : List Char) : Option Amount :=
  if ds = [] then some zero else ofDigits? (String.ofList ds)

/-- The yoctoNEAR that at most 24 decimals stand for: their number, brought up to the last decimal. -/
def ofDecimals? (ds : List Char) : Option Amount :=
  if ds = [] then some zero
  else do
    let scale ← ofYocto? (Nat.pow 10 (decimals - ds.length))
    (← ofDigits? (String.ofList ds)).mul? scale

/-- The amount of the digits before and behind the point, if it fits. -/
def ofParts? (whole fraction : List Char) : Option Amount := do
  let near ← ofRun? whole
  let rest ← ofDecimals? fraction
  (← near.mul? one).add? rest

/-- Reads an amount in NEAR. -/
def ofNear? (text : String) : Except InputFault Amount :=
  let (whole, fraction) := splitPoint (significant text.toList)
  if whole = [] ∧ fraction = [] then .error (.amount text)
  else if !(whole.all Char.isDigit && fraction.all Char.isDigit) then .error (.amount text)
  else if decimals < fraction.length then .error (.amountDecimals text)
  else
    match ofParts? whole fraction with
    | some a => .ok a
    | none => .error (.amount text)

/-- A number of yoctoNEAR brought up by half of the last decimal that is shown, as far as 128 bits go. -/
def roundedUp (n places : Nat) : Nat :=
  if places < decimals then min (n + 5 * Nat.pow 10 (decimals - places - 1)) (bound - 1) else n

/-- The 24 decimals of a number of yoctoNEAR. -/
def fractionDigits (n : Nat) : List Char :=
  let ds := digits (n % oneNear)
  List.replicate (decimals - ds.length) '0' ++ ds

/-- Digits without the zeros at their end. -/
def dropTrailingZeros (cs : List Char) : List Char :=
  (cs.reverse.dropWhile (· == '0')).reverse

/-- The characters of an amount in NEAR with at most `places` decimals. -/
def nearChars (a : Amount) (places : Nat) : List Char :=
  let places := min places decimals
  let n := roundedUp a.yocto places
  let fraction := dropTrailingZeros ((fractionDigits n).take places)
  if fraction = [] then digits (n / oneNear) else digits (n / oneNear) ++ '.' :: fraction

/-- The amount in NEAR with at most `places` decimals. -/
def toNear (a : Amount) (places : Nat) : String :=
  String.ofList (a.nearChars places)

end Amount

end Governance
