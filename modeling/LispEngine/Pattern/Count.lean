import LispEngine.Pattern.Term

/-!
# Counts of repetitions

The bounds of a repetition stand in braces: one count, or a least and a greatest one, of which the
second may be missing.
-/

namespace LispEngine.Pattern

def countBound : Nat := 0x100000000

def digits (verbose : Bool) : Nat → List Char → List Char × List Char
  | 0, cs => ([], cs)
  | _ + 1, [] => ([], [])
  | fuel + 1, c :: cs =>
      if c.isDigit then
        let (digits, rest) := digits verbose fuel (skip verbose cs)
        (c :: digits, rest)
      else ([], c :: cs)

def skipBlanks (verbose : Bool) : Nat → List Char → List Char
  | 0, cs => cs
  | _ + 1, [] => []
  | fuel + 1, c :: cs =>
      if Text.isBlank c then skipBlanks verbose fuel (skip verbose cs) else c :: cs

def count (verbose : Bool) (cs : List Char) : Option (Nat × List Char) :=
  let cs := Text.trimStart cs
  match digits verbose (cs.length + 1) cs with
  | ([], _) => none
  | (digits, rest) =>
      let n := digits.foldl (fun n c => 10 * n + (c.toNat - 48)) 0
      if n < countBound then some (n, skipBlanks verbose rest.length rest) else none

def bounds (verbose : Bool) (cs : List Char) : Option (Bounds × List Char) := do
  let (least, rest) ← count verbose (skip verbose cs)
  match rest with
  | '\x7d' :: rest => some (⟨least, some least⟩, rest)
  | ',' :: rest =>
      match skip verbose rest with
      | '\x7d' :: rest => some (⟨least, none⟩, rest)
      | rest => do
          let (most, rest) ← count verbose rest
          match rest with
          | '\x7d' :: rest => if least ≤ most then some (⟨least, some most⟩, rest) else none
          | _ => none
  | _ => none

end LispEngine.Pattern
