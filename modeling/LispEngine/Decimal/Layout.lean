/-!
# Layouts of decimals

How a decimal, given as a whole number of powers of ten, is written: positionally or with an
exponent, and with or without the fraction of a whole number.
-/

namespace LispEngine.Decimal

/-- The decisions that a written form makes. A decimal whose first digit stands for `10 ^ e` is
written positionally when `e` lies in the range from `least` up to but not including `limit`; no
range means always. -/
structure Layout where
  positional : Option (Int × Int)
  keepFraction : Bool
deriving DecidableEq, Repr

/-- Values show the shortest digits, at least one of them after the point, and take an exponent from
`10 ^ 16` on and below `10 ^ (-4)`. -/
def valueLayout : Layout := ⟨some (-4, 16), true⟩

/-- The components of a version are read from a text without exponent, in which whole numbers have
no fraction. -/
def plainLayout : Layout := ⟨none, false⟩

def zeros (n : Nat) : List Char := List.replicate n '0'

def Layout.isPositional (layout : Layout) (leading : Int) : Bool :=
  match layout.positional with
  | none => true
  | some (least, limit) => least ≤ leading && leading < limit

def Layout.writePositional (layout : Layout) (digits : List Char) (point : Int) : List Char :=
  if point ≤ 0 then
    ['0', '.'] ++ zeros (-point).toNat ++ digits
  else if digits.length ≤ point.toNat then
    digits ++ zeros (point.toNat - digits.length) ++
      (if layout.keepFraction then ['.', '0'] else [])
  else
    digits.take point.toNat ++ '.' :: digits.drop point.toNat

def writeExponent (digits : List Char) (leading : Int) : List Char :=
  let mantissa :=
    match digits with
    | first :: next :: more => first :: '.' :: next :: more
    | short => short
  mantissa ++ 'e' :: (toString leading).toList

/-- Writes `digits * 10 ^ unit`, where `digits` is not zero. -/
def Layout.write (layout : Layout) (digits : Nat) (unit : Int) : List Char :=
  let written := Nat.toDigits 10 digits
  let leading : Int := written.length + unit - 1
  if layout.isPositional leading then layout.writePositional written (leading + 1)
  else writeExponent written leading

def Layout.zero (layout : Layout) : List Char :=
  if layout.keepFraction then ['0', '.', '0'] else ['0']

end LispEngine.Decimal
