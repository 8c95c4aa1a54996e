import LispEngine.Text.Basic

/-!
# Versions

A version is a sequence of components such as `1.4.2`. A component that is missing counts as zero,
so versions are compared without the zeros at their ends.
-/

namespace LispEngine

structure Version where
  parts : List UInt64
deriving DecidableEq, Repr

inductive VersionProblem where
  | empty
  | component (part : String)
deriving DecidableEq, Repr

namespace VersionProblem

def message : VersionProblem → String
  | empty => "empty version string"
  | component part => s!"invalid version component '{part}'"

end VersionProblem

namespace Version

def dropMark : List Char → List Char
  | 'v' :: cs => cs
  | 'V' :: cs => cs
  | cs => cs

def readPart (part : List Char) : Except VersionProblem UInt64 :=
  match Text.readUnsigned? Text.wordBound part with
  | some n => .ok (UInt64.ofNat n)
  | none => .error (.component (String.ofList part))

def readParts : List (List Char) → Except VersionProblem (List UInt64)
  | [] => .ok []
  | part :: parts => do
      let first ← readPart part
      let rest ← readParts parts
      return first :: rest

/-- Reads a version: blanks around it and one leading `v` are ignored. -/
def parse (text : String) : Except VersionProblem Version :=
  match dropMark (Text.trim text.toList) with
  | [] => .error .empty
  | cs => (readParts (Text.splitOn '.' cs)).map Version.mk

def display (version : Version) : String :=
  ".".intercalate (version.parts.map fun part => toString part.toNat)

def significant (version : Version) : List UInt64 :=
  (version.parts.reverse.dropWhile (· == 0)).reverse

def equal (a b : Version) : Bool := a.significant == b.significant

/-- Lexicographic order, a proper beginning coming first. -/
def compareParts : List UInt64 → List UInt64 → Ordering
  | [], [] => .eq
  | [], _ :: _ => .lt
  | _ :: _, [] => .gt
  | x :: xs, y :: ys => if x < y then .lt else if y < x then .gt else compareParts xs ys

def compare (a b : Version) : Ordering := compareParts a.significant b.significant

/-- Combines components at equal places, zeros standing in for missing ones. -/
def zipParts (f : UInt64 → UInt64 → Option UInt64) :
    List UInt64 → List UInt64 → Option (List UInt64)
  | [], [] => some []
  | x :: xs, [] => do
      let z ← f x 0
      let zs ← zipParts f xs []
      return z :: zs
  | [], y :: ys => do
      let z ← f 0 y
      let zs ← zipParts f [] ys
      return z :: zs
  | x :: xs, y :: ys => do
      let z ← f x y
      let zs ← zipParts f xs ys
      return z :: zs

def addPart (x y : UInt64) : Option UInt64 :=
  if x.toNat + y.toNat < Text.wordBound then some (x + y) else none

def subPart (x y : UInt64) : Option UInt64 :=
  if y ≤ x then some (x - y) else none

def add? (a b : Version) : Option Version := (zipParts addPart a.parts b.parts).map Version.mk

def sub? (a b : Version) : Option Version := (zipParts subPart a.parts b.parts).map Version.mk

end Version

end LispEngine
