import LispEngine.Text.Basic

/-!
# Sets of characters

A set of characters is a list of ranges of code points, in increasing order and with a gap between
each range and the next. The code points 0xD800 to 0xDFFF are no characters, so that 0xE000 comes
right after 0xD7FF where a range begins or ends.
-/

namespace LispEngine

structure CharRange where
  first : Nat
  last : Nat
deriving DecidableEq, Repr

structure CharSet where
  ranges : List CharRange
deriving DecidableEq, Repr

def maxCode : Nat := 0x10FFFF

namespace CharRange

def single (code : Nat) : CharRange := ⟨code, code⟩

def startsBefore (a b : CharRange) : Bool := a.first ≤ b.first

def joinFrom (current : CharRange) : List CharRange → List CharRange
  | [] => [current]
  | next :: rest =>
      if next.first ≤ current.last + 1 then
        joinFrom ⟨current.first, max current.last next.last⟩ rest
      else current :: joinFrom next rest

/-- Joins the ranges that overlap or touch, of ranges in the order of their starts. -/
def join : List CharRange → List CharRange
  | [] => []
  | range :: ranges => joinFrom range ranges

def meet : List CharRange → List CharRange → List CharRange
  | [], _ => []
  | _, [] => []
  | a :: as, b :: bs =>
      let rest := if a.last < b.last then meet as (b :: bs) else meet (a :: as) bs
      if max a.first b.first ≤ min a.last b.last then
        ⟨max a.first b.first, min a.last b.last⟩ :: rest
      else rest
termination_by as bs => as.length + bs.length

def before (code : Nat) : Nat := if code = 0xE000 then 0xD7FF else code - 1

def after (code : Nat) : Nat := if code = 0xD7FF then 0xE000 else code + 1

def gaps (start : Nat) : List CharRange → List CharRange
  | [] => if start ≤ maxCode then [⟨start, maxCode⟩] else []
  | range :: ranges =>
      if start < range.first then ⟨start, before range.first⟩ :: gaps (after range.last) ranges
      else gaps (after range.last) ranges

end CharRange

namespace CharSet

def empty : CharSet := ⟨[]⟩

def full : CharSet := ⟨[⟨0, maxCode⟩]⟩

def ofRanges (ranges : List CharRange) : CharSet :=
  ⟨CharRange.join (ranges.mergeSort CharRange.startsBefore)⟩

def range (first last : Nat) : CharSet := ⟨[⟨first, last⟩]⟩

def single (code : Nat) : CharSet := range code code

def union (a b : CharSet) : CharSet :=
  ⟨CharRange.join (a.ranges.merge b.ranges CharRange.startsBefore)⟩

def inter (a b : CharSet) : CharSet := ⟨CharRange.meet a.ranges b.ranges⟩

def compl (a : CharSet) : CharSet := ⟨CharRange.gaps 0 a.ranges⟩

def diff (a b : CharSet) : CharSet := a.inter b.compl

def symmDiff (a b : CharSet) : CharSet := (a.union b).diff (a.inter b)

def unionAll (sets : List CharSet) : CharSet := ofRanges (sets.flatMap CharSet.ranges)

def contains (a : CharSet) (code : Nat) : Bool :=
  a.ranges.any fun range => range.first ≤ code && code ≤ range.last

def isAscii (a : CharSet) : Bool := a.ranges.all fun range => range.last < 128

def only? (a : CharSet) : Option Char :=
  match a.ranges with
  | [⟨first, last⟩] => if first = last then Text.charOf? first else none
  | _ => none

def shift (a : CharSet) (distance : Int) : CharSet :=
  ⟨a.ranges.map fun range =>
    ⟨(range.first + distance).toNat, (range.last + distance).toNat⟩⟩

/-! ## Tables

A table is a list of lines with entries divided by spaces. An entry is a code point in hexadecimal
digits, a range `41-5A`, or every second code point of a range `100:12E`. -/

def hexValue (digits : String) : Nat :=
  digits.toList.foldl (fun n c => 16 * n + (Text.hexDigit? c).getD 0) 0

def entryRanges (entry : String) : List CharRange :=
  match entry.splitOn "-", entry.splitOn ":" with
  | [first, last], _ => [⟨hexValue first, hexValue last⟩]
  | _, [first, last] =>
      (List.range ((hexValue last - hexValue first) / 2 + 1)).map fun i =>
        CharRange.single (hexValue first + 2 * i)
  | _, _ => [CharRange.single (hexValue entry)]

def tableRanges (table : List String) : List CharRange :=
  table.flatMap fun line => (line.splitOn " ").flatMap entryRanges

def ofTable (table : List String) : CharSet := ofRanges (tableRanges table)

end CharSet

end LispEngine
