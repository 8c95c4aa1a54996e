import LispEngine.Decimal.Shortest
import LispEngine.Decimal.Layout

/-!
# Binary floating-point numbers

The two binary formats of the language, by their bits. Bits are what equality of values compares,
so the sign and the payload of a number that is not a number are part of it: an invalid operation
gives the one with all sign, exponent and quiet bits set, and an operand of that sort is handed on,
the first one before the second.
-/

namespace LispEngine

structure BinaryFormat where
  fractionBits : Nat
  exponentBits : Nat
deriving DecidableEq, Repr

inductive Decoded where
  | notANumber
  | infinite (negative : Bool)
  | finite (negative : Bool) (significand : Nat) (exponent : Int)
deriving DecidableEq, Repr

namespace BinaryFormat

def single : BinaryFormat := ⟨23, 8⟩

def double : BinaryFormat := ⟨52, 11⟩

def leastExponent (format : BinaryFormat) : Int :=
  2 - Nat.pow 2 (format.exponentBits - 1) - format.fractionBits

def fractionField (format : BinaryFormat) (raw : Nat) : Nat := raw % Nat.pow 2 format.fractionBits

def exponentField (format : BinaryFormat) (raw : Nat) : Nat :=
  raw / Nat.pow 2 format.fractionBits % Nat.pow 2 format.exponentBits

def isNegative (format : BinaryFormat) (raw : Nat) : Bool :=
  raw / Nat.pow 2 (format.fractionBits + format.exponentBits) % 2 == 1

def decode (format : BinaryFormat) (raw : Nat) : Decoded :=
  let negative := format.isNegative raw
  let fraction := format.fractionField raw
  let exponent := format.exponentField raw
  if exponent = Nat.pow 2 format.exponentBits - 1 then
    if fraction = 0 then .infinite negative else .notANumber
  else if exponent = 0 then .finite negative fraction format.leastExponent
  else
    .finite negative (Nat.pow 2 format.fractionBits + fraction)
      (format.leastExponent + exponent - 1)

def signBit (format : BinaryFormat) (negative : Bool) : Nat :=
  if negative then Nat.pow 2 (format.fractionBits + format.exponentBits) else 0

/-- The bits of `significand * 2 ^ exponent`, for a number that the format holds exactly. -/
def encode (format : BinaryFormat) (negative : Bool) (significand : Nat) (exponent : Int) : Nat :=
  let length := if significand = 0 then 0 else Nat.log2 significand + 1
  let room := min (format.fractionBits + 1 - length) (exponent - format.leastExponent).toNat
  let aligned := significand * Nat.pow 2 room
  let magnitude :=
    if aligned < Nat.pow 2 format.fractionBits then aligned
    else
      ((exponent - room - format.leastExponent).toNat + 1) * Nat.pow 2 format.fractionBits +
        (aligned - Nat.pow 2 format.fractionBits)
  format.signBit negative + magnitude

def indefinite (format : BinaryFormat) : Nat :=
  format.signBit true +
    (Nat.pow 2 (format.exponentBits + 1) - 1) * Nat.pow 2 (format.fractionBits - 1)

def quiet (format : BinaryFormat) (raw : Nat) : Nat :=
  let bit := Nat.pow 2 (format.fractionBits - 1)
  if raw / bit % 2 = 1 then raw else raw + bit

/-- The remainder of the division that truncates its quotient, with the sign of the dividend. It is
exact. -/
def remainder (format : BinaryFormat) (x y : Nat) : Nat :=
  match format.decode x, format.decode y with
  | .notANumber, _ => format.quiet x
  | _, .notANumber => format.quiet y
  | .infinite _, _ => format.indefinite
  | .finite _ _ _, .infinite _ => x
  | .finite negative m e, .finite _ n f =>
      if n = 0 then format.indefinite
      else
        let shared := min e f
        let dividend := m * Nat.pow 2 (e - shared).toNat
        let divisor := n * Nat.pow 2 (f - shared).toNat
        format.encode negative (dividend % divisor) shared

def text (format : BinaryFormat) (layout : Decimal.Layout) (raw : Nat) : String :=
  let signed (negative : Bool) (digits : List Char) : String :=
    String.ofList (if negative then '-' :: digits else digits)
  match format.decode raw with
  | .notANumber => "NaN"
  | .infinite negative => signed negative ['i', 'n', 'f']
  | .finite negative significand exponent =>
      if significand = 0 then signed negative layout.zero
      else
        let closerBelow :=
          significand == Nat.pow 2 format.fractionBits && format.leastExponent < exponent
        let (digits, unit) := Decimal.shortest significand exponent closerBelow
        signed negative (layout.write digits unit)

end BinaryFormat

structure Binary64 where
  bits : UInt64
deriving DecidableEq, Repr

structure Binary32 where
  bits : UInt32
deriving DecidableEq, Repr

namespace Binary64

def isNaN (x : Binary64) : Bool :=
  BinaryFormat.double.decode x.bits.toNat == .notANumber

def ofRaw (raw : Nat) : Binary64 := ⟨UInt64.ofNat raw⟩

def toFloat (x : Binary64) : Float := Float.ofBits x.bits

def ofInt64 (n : Int64) : Binary64 := ⟨n.toFloat.toBits⟩

/-- Carries out an operation on numbers, with the rules for operands and results that are not. -/
def lift (operation : Float → Float → Float) (x y : Binary64) : Binary64 :=
  if x.isNaN then ofRaw (BinaryFormat.double.quiet x.bits.toNat)
  else if y.isNaN then ofRaw (BinaryFormat.double.quiet y.bits.toNat)
  else
    let result : Binary64 := ⟨(operation x.toFloat y.toFloat).toBits⟩
    if result.isNaN then ofRaw BinaryFormat.double.indefinite else result

def rem (x y : Binary64) : Binary64 :=
  ofRaw (BinaryFormat.double.remainder x.bits.toNat y.bits.toNat)

def compare (x y : Binary64) : Option Ordering :=
  if x.isNaN || y.isNaN then none
  else if x.toFloat < y.toFloat then some .lt
  else if y.toFloat < x.toFloat then some .gt
  else some .eq

def text (layout : Decimal.Layout) (x : Binary64) : String :=
  BinaryFormat.double.text layout x.bits.toNat

end Binary64

namespace Binary32

def isNaN (x : Binary32) : Bool :=
  BinaryFormat.single.decode x.bits.toNat == .notANumber

def ofRaw (raw : Nat) : Binary32 := ⟨UInt32.ofNat raw⟩

def toFloat32 (x : Binary32) : Float32 := Float32.ofBits x.bits

def lift (operation : Float32 → Float32 → Float32) (x y : Binary32) : Binary32 :=
  if x.isNaN then ofRaw (BinaryFormat.single.quiet x.bits.toNat)
  else if y.isNaN then ofRaw (BinaryFormat.single.quiet y.bits.toNat)
  else
    let result : Binary32 := ⟨(operation x.toFloat32 y.toFloat32).toBits⟩
    if result.isNaN then ofRaw BinaryFormat.single.indefinite else result

def rem (x y : Binary32) : Binary32 :=
  ofRaw (BinaryFormat.single.remainder x.bits.toNat y.bits.toNat)

def widen (x : Binary32) : Binary64 :=
  if x.isNaN then
    let raw := x.bits.toNat
    let payload := BinaryFormat.single.fractionField (BinaryFormat.single.quiet raw)
    .ofRaw (BinaryFormat.double.signBit (BinaryFormat.single.isNegative raw) +
      (Nat.pow 2 11 - 1) * Nat.pow 2 52 + payload * Nat.pow 2 29)
  else ⟨x.toFloat32.toFloat.toBits⟩

def text (layout : Decimal.Layout) (x : Binary32) : String :=
  BinaryFormat.single.text layout x.bits.toNat

end Binary32

def Binary64.narrow (x : Binary64) : Binary32 :=
  if x.isNaN then
    let raw := x.bits.toNat
    let payload := BinaryFormat.double.fractionField (BinaryFormat.double.quiet raw)
    .ofRaw (BinaryFormat.single.signBit (BinaryFormat.double.isNegative raw) +
      (Nat.pow 2 8 - 1) * Nat.pow 2 23 + payload / Nat.pow 2 29)
  else ⟨x.toFloat.toFloat32.toBits⟩

end LispEngine
