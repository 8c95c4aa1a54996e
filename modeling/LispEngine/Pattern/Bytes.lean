import LispEngine.Character.Set

/-!
# Characters as bytes

A character is written in one to four bytes. A range of characters is the union of sequences of byte
ranges: some bytes are one of the characters exactly if they lie, one by one, in the ranges of one
of the sequences.
-/

namespace LispEngine.Pattern

structure ByteRange where
  first : Nat
  last : Nat
deriving DecidableEq, Repr

def bytesOf (code : Nat) : List Nat :=
  if code < 0x80 then [code]
  else if code < 0x800 then [0xC0 + code / 0x40, 0x80 + code % 0x40]
  else if code < 0x10000 then
    [0xE0 + code / 0x1000, 0x80 + code / 0x40 % 0x40, 0x80 + code % 0x40]
  else
    [0xF0 + code / 0x40000, 0x80 + code / 0x1000 % 0x40, 0x80 + code / 0x40 % 0x40,
     0x80 + code % 0x40]

def lengthCut? (first last : Nat) : Option Nat :=
  [0x80, 0x800, 0x10000].find? fun limit => first < limit && limit ≤ last

/-- Where to cut a range that reaches over a border between blocks of a size, but does not begin or
end at one. -/
def blockCut? (first last size : Nat) : Option Nat :=
  if first / size = last / size then none
  else if first % size ≠ 0 then some ((first / size + 1) * size)
  else if last % size ≠ size - 1 then some (last / size * size)
  else none

def cut? (first last : Nat) : Option Nat :=
  match lengthCut? first last with
  | some code => some code
  | none =>
      if last < 0x80 then none else [0x40, 0x1000, 0x40000].findSome? (blockCut? first last)

def sequences (first last : Nat) : List (List ByteRange) :=
  match cut? first last with
  | some code =>
      if first < code ∧ code ≤ last then
        sequences first (code - 1) ++ sequences code last
      else []
  | none => [List.zipWith ByteRange.mk (bytesOf first) (bytesOf last)]
termination_by last + 1 - first

def scalarParts (range : CharRange) : List CharRange :=
  if range.first < 0xE000 ∧ 0xD7FF < range.last then
    [⟨range.first, 0xD7FF⟩, ⟨0xE000, range.last⟩].filter fun part => part.first ≤ part.last
  else [range]

def setSequences (set : CharSet) : List (List ByteRange) :=
  (set.ranges.flatMap scalarParts).flatMap fun range => sequences range.first range.last

end LispEngine.Pattern
