import LispEngine.Pattern.Term

/-!
# Marked characters in patterns

A backslash takes the special meaning from a sign, or names a character by its code, a class of
characters or a place.
-/

namespace LispEngine.Pattern

open Text (Scan hexDigit? charOf?)

inductive Escaped where
  | char (literal : Literal)
  | letter (kind : LetterClass) (negated : Bool)
  | property (query : Query) (negated : Bool)
  | place (place : Place)

def isSign (c : Char) : Bool := "\\.+*?()|[]\x7b\x7d^$#&-~".toList.contains c

def isEscapable (c : Char) : Bool :=
  isSign c || (c.toNat < 128 && !c.isAlphanum && c != '<' && c != '>')

/-! ## Codes -/

def codeDigits (verbose : Bool) : Nat → Nat → Scan Nat
  | 0, value, cs => some (value, cs)
  | count + 1, value, c :: cs =>
      match hexDigit? c with
      | some digit => codeDigits verbose count (16 * value + digit) (skip verbose cs)
      | none => none
  | _ + 1, _, [] => none

def upToBrace (verbose : Bool) : Nat → Scan (List Char)
  | 0, _ => none
  | fuel + 1, cs =>
      match skip verbose cs with
      | [] => none
      | '\x7d' :: rest => some ([], rest)
      | c :: rest => (upToBrace verbose fuel rest).map fun (cs, rest) => (c :: cs, rest)

def codeValue : Nat → List Char → Option Nat
  | value, [] => some value
  | value, c :: cs => (hexDigit? c).bind fun digit => codeValue (16 * value + digit) cs

def code (verbose : Bool) (count : Nat) (cs : List Char) : Option (Char × List Char) :=
  match skip verbose cs with
  | '\x7b' :: rest => do
      let (digits, rest) ← upToBrace verbose (rest.length + 1) rest
      let value ← if digits.isEmpty then none else codeValue 0 digits
      let c ← charOf? value
      return (c, skip verbose rest)
  | cs => do
      let (value, rest) ← codeDigits verbose count 0 cs
      let c ← charOf? value
      return (c, rest)

def shortCode (verbose : Bool) (cs : List Char) : Option (Escaped × List Char) :=
  (code verbose 2 cs).map fun (c, rest) =>
    (.char ⟨c, (skip verbose cs).head? != some '\x7b'⟩, rest)

def longCode (verbose : Bool) (count : Nat) (cs : List Char) : Option (Escaped × List Char) :=
  (code verbose count cs).map fun (c, rest) => (.char ⟨c, false⟩, rest)

/-! ## Properties -/

def cutAt? (mark : List Char) : List Char → Option (List Char × List Char)
  | [] => none
  | c :: cs =>
      if mark.isPrefixOf (c :: cs) then some ([], (c :: cs).drop mark.length)
      else (cutAt? mark cs).map fun (front, rest) => (c :: front, rest)

/-- A value stands after an inequality sign, else after a colon, else after an equality sign. -/
def queryOf (cs : List Char) : Query :=
  match ((cutAt? ['!', '='] cs).or (cutAt? [':'] cs)).or (cutAt? ['='] cs) with
  | some (name, value) => .valued name value
  | none => .named cs

def property (verbose negated : Bool) (cs : List Char) : Option (Escaped × List Char) :=
  match skip verbose cs with
  | [] => none
  | '\x7b' :: rest => (upToBrace verbose (rest.length + 1) rest).map fun (name, rest) =>
      (.property (queryOf name) negated, rest)
  | c :: rest =>
      if c = '\\' then none else some (.property (.named [c]) negated, skip verbose rest)

/-! ## Places -/

def isPlaceChar (c : Char) : Bool := c.isAlpha || c == '-'

def placeChars (verbose : Bool) : Nat → List Char → List Char × List Char
  | 0, cs => ([], cs)
  | _ + 1, [] => ([], [])
  | fuel + 1, c :: cs =>
      if isPlaceChar c then
        let (name, rest) := placeChars verbose fuel (skip verbose cs)
        (c :: name, rest)
      else ([], c :: cs)

def placeNamed? : String → Option Place
  | "start" => some .wordStart
  | "end" => some .wordEnd
  | "start-half" => some .wordStartHalf
  | "end-half" => some .wordEndHalf
  | _ => none

/-- Reads which edge of a word is meant. Braces after it that do not hold a name are the bounds of a
repetition. -/
def wordEdge (verbose : Bool) (cs : List Char) : Option (Escaped × List Char) :=
  match cs with
  | '\x7b' :: rest =>
      match skip verbose rest with
      | [] => none
      | c :: inner =>
          if isPlaceChar c then
            match placeChars verbose (inner.length + 1) (c :: inner) with
            | (name, '\x7d' :: rest) =>
                (placeNamed? (String.ofList name)).map fun place => (.place place, rest)
            | _ => none
          else some (.place .wordEdge, cs)
  | _ => some (.place .wordEdge, cs)

/-! ## All escapes -/

def escaped (verbose : Bool) : Scan Escaped
  | [] => none
  | c :: cs =>
      let plain (c : Char) : Option (Escaped × List Char) := some (.char ⟨c, false⟩, cs)
      match c with
      | 'x' => shortCode verbose cs
      | 'u' => longCode verbose 4 cs
      | 'U' => longCode verbose 8 cs
      | 'p' => property verbose false cs
      | 'P' => property verbose true cs
      | 'd' => some (.letter .digit false, cs)
      | 's' => some (.letter .space false, cs)
      | 'w' => some (.letter .word false, cs)
      | 'D' => some (.letter .digit true, cs)
      | 'S' => some (.letter .space true, cs)
      | 'W' => some (.letter .word true, cs)
      | 'a' => plain '\x07'
      | 'f' => plain '\x0c'
      | 't' => plain '\t'
      | 'n' => plain '\n'
      | 'r' => plain '\r'
      | 'v' => plain '\x0b'
      | 'A' => some (.place .textStart, cs)
      | 'z' => some (.place .textEnd, cs)
      | 'B' => some (.place .notWordEdge, cs)
      | '<' => some (.place .wordStart, cs)
      | '>' => some (.place .wordEnd, cs)
      | 'b' => wordEdge verbose cs
      | c => if isEscapable c then plain c else none

end LispEngine.Pattern
