/-!
# Numbers with 53 binary digits

Durations are held with 53 binary digits. A number that has more is replaced by
the nearest one that has not, and by the even one of two that are equally near.
Very small numbers have fewer digits, and numbers beyond the largest are
infinite.

All arithmetic is on natural numbers and exact.
-/

namespace EvmIndexer

/-- A number of at least zero with 53 binary digits. -/
inductive Binary where
  /-- The number `digits * 2 ^ exponent`. -/
  | finite (digits : Nat) (exponent : Int)
  | infinite
deriving DecidableEq, Repr

namespace Binary

def precision : Nat := 53

def minExponent : Int := -1074

/-- The largest exponent of a number with all its digits. -/
def maxExponent : Int := 971

/-- The quotient of two numbers, rounded to the nearest number, and to the even
one of two that are equally near. -/
def roundDiv (a b : Nat) : Nat :=
  let q := a / b
  let r := a % b
  if 2 * r < b then q else if b < 2 * r then q + 1 else q + q % 2

/-- Whether `a / b` is at least two to an exponent. -/
def reaches (a b : Nat) (exponent : Int) : Bool :=
  b * Nat.pow 2 exponent.toNat ≤ a * Nat.pow 2 (-exponent).toNat

/-- The exponent of the first binary digit of `a / b`. -/
def leadingExponent (a b : Nat) : Int :=
  let guess : Int := (a.log2 : Int) - b.log2
  if reaches a b guess then guess else guess - 1

def ofRatio (a b : Nat) : Binary :=
  if a = 0 then .finite 0 minExponent
  else
    let exponent := max (leadingExponent a b - (precision - 1 : Nat)) minExponent
    let digits := roundDiv (a * Nat.pow 2 (-exponent).toNat)
      (b * Nat.pow 2 exponent.toNat)
    let (digits, exponent) :=
      if digits = Nat.pow 2 precision then (Nat.pow 2 (precision - 1), exponent + 1)
      else (digits, exponent)
    if maxExponent < exponent then .infinite else .finite digits exponent

/-- Whether a number is above zero. -/
def isPositive : Binary → Bool
  | .finite digits _ => digits != 0
  | .infinite => true

/-- The value of a number, if it is finite. -/
def toRat? : Binary → Option Rat
  | .finite digits exponent => some (digits * (2 : Rat) ^ exponent)
  | .infinite => none

end Binary

end EvmIndexer
