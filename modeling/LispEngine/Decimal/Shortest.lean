/-!
# Shortest decimals

A binary floating-point number stands for every real that rounds to it. These reals form an
interval around it, and the shortest decimal of the number is the multiple of the largest power of
ten in that interval, the nearest one if there are two, and the greater one if both are as near.
-/

namespace LispEngine.Decimal

/-- The reals that round to a number, as multiples of `1 / scale`. The ends belong to the interval
when `closed` holds. -/
structure Interval where
  low : Nat
  middle : Nat
  high : Nat
  scale : Nat
  closed : Bool
deriving DecidableEq, Repr

namespace Interval

/-- The interval around `significand * 2 ^ exponent`. It is half as wide below a power of two,
where the neighbouring numbers lie closer together. -/
def ofBinary (significand : Nat) (exponent : Int) (closerBelow : Bool) : Interval :=
  let up := (exponent - 2).toNat
  let down := (2 - exponent).toNat
  let below := if closerBelow then 1 else 2
  { low := (4 * significand - below) * Nat.pow 2 up
    middle := 4 * significand * Nat.pow 2 up
    high := (4 * significand + 2) * Nat.pow 2 up
    scale := Nat.pow 2 down
    closed := significand % 2 == 0 }

def inUnits (interval : Interval) (unit : Int) : Interval :=
  let factor := Nat.pow 10 (-unit).toNat
  { interval with
    low := interval.low * factor
    middle := interval.middle * factor
    high := interval.high * factor
    scale := interval.scale * Nat.pow 10 unit.toNat }

def contains (interval : Interval) (n : Nat) : Bool :=
  if interval.closed then
    interval.low ≤ n * interval.scale && n * interval.scale ≤ interval.high
  else
    interval.low < n * interval.scale && n * interval.scale < interval.high

def nearest? (interval : Interval) : Option Nat :=
  let below := interval.middle / interval.scale
  let remainder := interval.middle % interval.scale
  match interval.contains below, interval.contains (below + 1) with
  | true, true => some (if 2 * remainder < interval.scale then below else below + 1)
  | true, false => some below
  | false, true => some (below + 1)
  | false, false => none

/-- The multiple of the largest power of ten in the interval, sought from `10 ^ unit` downwards. -/
def shortestFrom (interval : Interval) : Nat → Int → Nat × Int
  | 0, unit => (interval.middle, unit)
  | steps + 1, unit =>
      match (interval.inUnits unit).nearest? with
      | some digits => (digits, unit)
      | none => interval.shortestFrom steps (unit - 1)

end Interval

def unitAbove (significand : Nat) (exponent : Int) : Int :=
  (((Nat.log2 significand : Int) + 1 + exponent) * 30103).fdiv 100000 + 2

/-- The digits of the shortest decimal of `significand * 2 ^ exponent`, as a whole number, and the
power of ten that they are multiplied by. -/
def shortest (significand : Nat) (exponent : Int) (closerBelow : Bool) : Nat × Int :=
  (Interval.ofBinary significand exponent closerBelow).shortestFrom 24
    (unitAbove significand exponent)

end LispEngine.Decimal
