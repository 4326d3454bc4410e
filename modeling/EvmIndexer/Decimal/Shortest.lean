import EvmIndexer.Decimal.Binary

/-!
# The shortest decimal that reads back

Many decimals are nearest to the same binary number. Among them the one with the
fewest digits is taken, and among those with as many the one nearest to the
number. For each count of digits only two decimals come into question, the
neighbours of the number on the grid of decimals with so many digits: if any
decimal of the grid is near enough, one of the two is.
-/

namespace EvmIndexer

structure Decimal where
  digits : Nat
  exponent : Int
deriving DecidableEq, Repr

namespace Decimal

def digitCount (n : Nat) : Nat := (Nat.toDigits 10 n).length

/-- The exponent of the first decimal digit of `a / b`, which is above zero. -/
def leadingExponent (a b : Nat) : Int :=
  if b ≤ a then digitCount (a / b) - 1 else -digitCount ((b + a - 1) / a - 1)

/-- A binary number, multiplied by four, and the ends of the interval of all
numbers that are nearest to it, each as a multiple of the same power of two. The
interval reaches less far down where the gaps between numbers become smaller. -/
structure Interval where
  low : Nat
  middle : Nat
  high : Nat
  exponent : Int
  /-- Whether the ends belong to it. -/
  closed : Bool
deriving DecidableEq, Repr

def interval (digits : Nat) (exponent : Int) : Interval where
  low := if digits = Nat.pow 2 (Binary.precision - 1) ∧ exponent ≠ Binary.minExponent
    then 4 * digits - 1 else 4 * digits - 2
  middle := 4 * digits
  high := 4 * digits + 2
  exponent := exponent - 2
  closed := digits % 2 = 0

/-- The two numbers whose quotient is `n * base ^ exponent`. -/
def ratio (n base : Nat) (exponent : Int) : Nat × Nat :=
  (n * Nat.pow base exponent.toNat, Nat.pow base (-exponent).toNat)

/-- Whether `a / b` is below `c / d`, or is equal to it where that counts. -/
def below (closed : Bool) (x y : Nat × Nat) : Bool :=
  let left := x.1 * y.2
  let right := y.1 * x.2
  if closed then left ≤ right else left < right

def isIn (d : Decimal) (i : Interval) : Bool :=
  let value := ratio d.digits 10 d.exponent
  below i.closed (ratio i.low 2 i.exponent) value
    && below i.closed value (ratio i.high 2 i.exponent)

/-- The better of the two neighbours on a grid, if one of them is near enough. -/
def onGrid? (i : Interval) (exponent : Int) : Option Decimal :=
  let middle := ratio i.middle 2 i.exponent
  let step := ratio 1 10 exponent
  let a := middle.1 * step.2
  let b := middle.2 * step.1
  let lower : Decimal := ⟨a / b, exponent⟩
  let upper : Decimal := ⟨a / b + 1, exponent⟩
  let nearest : Decimal := ⟨Binary.roundDiv a b, exponent⟩
  [nearest, lower, upper].find? (·.isIn i)

/-- Drops zeros at the end, at most so many. -/
def dropZeros : Nat → Decimal → Decimal
  | 0, d => d
  | n + 1, d =>
    if d.digits % 10 = 0 then dropZeros n ⟨d.digits / 10, d.exponent + 1⟩ else d

/-- The greatest count of digits that is ever needed. -/
def maxDigits : Nat := 17

/-- The shortest decimal that is nearest to a number above zero. -/
def shortest (digits : Nat) (exponent : Int) : Decimal :=
  let i := interval digits exponent
  let middle := ratio i.middle 2 i.exponent
  let leading := leadingExponent middle.1 middle.2
  let found := (List.range maxDigits).findSome? fun (n : Nat) =>
    onGrid? i (leading - n)
  dropZeros maxDigits (found.getD ⟨middle.1 / middle.2, 0⟩)

/-- The exponent of the first digit from which on a decimal is written with a
mark for its exponent. -/
def plainBelow : Int := 16

/-- The exponent of the first digit below which it is. -/
def plainFrom : Int := -4

/-- The text of a decimal. One of middling size is written plainly and always
with a point; the others are written with one digit before the point and an
exponent of at least two digits. -/
def text (d : Decimal) : String :=
  let ds := Nat.toDigits 10 d.digits
  let leading := d.exponent + ds.length - 1
  if leading < plainFrom ∨ plainBelow ≤ leading then
    let fraction := if ds.length = 1 then [] else '.' :: ds.tail
    let sign := if leading < 0 then '-' else '+'
    let size := Nat.toDigits 10 leading.natAbs
    let size := if size.length = 1 then '0' :: size else size
    String.ofList (ds.take 1 ++ fraction ++ ['e', sign] ++ size)
  else if 0 ≤ d.exponent then
    String.ofList (ds ++ List.replicate d.exponent.toNat '0' ++ ['.', '0'])
  else if 0 ≤ leading then
    let whole := leading.toNat + 1
    String.ofList (ds.take whole ++ ['.'] ++ ds.drop whole)
  else
    String.ofList (['0', '.'] ++ List.replicate (-leading - 1).toNat '0' ++ ds)

end Decimal

/-- The text of a number: the shortest decimal that reads back. -/
def Binary.text : Binary → String
  | .finite 0 _ => "0.0"
  | .finite digits exponent => (Decimal.shortest digits exponent).text
  | .infinite => "inf"

end EvmIndexer
