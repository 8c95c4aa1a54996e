/-!
# Texts

Blank characters, decimal numerals, the case folding used for names, the pieces and lines of a text,
and scanners for what stands at the start of one.
-/

namespace LispEngine.Text

/-! ## Blank characters -/

def isBlankCode (code : Nat) : Bool :=
  (9 ≤ code && code ≤ 13) || code == 0x20 || code == 0x85 || code == 0xA0 ||
    code == 0x1680 || (0x2000 ≤ code && code ≤ 0x200A) || code == 0x2028 ||
    code == 0x2029 || code == 0x202F || code == 0x205F || code == 0x3000

def isBlank (c : Char) : Bool := isBlankCode c.toNat

def trimStart (cs : List Char) : List Char := cs.dropWhile isBlank

def trimEnd (cs : List Char) : List Char := (trimStart cs.reverse).reverse

def trim (cs : List Char) : List Char := trimEnd (trimStart cs)

/-! ## Numerals and names -/

def wordBound : Nat := 0x10000000000000000

def digitValue (c : Char) : Nat := c.toNat - 48

def numeralValue (digits : List Char) : Nat :=
  digits.foldl (fun value c => 10 * value + digitValue c) 0

/-- The digits of an unsigned numeral: an optional single plus sign stands before them. -/
def unsignedDigits : List Char → List Char
  | '+' :: digits => digits
  | digits => digits

def readUnsigned? (bound : Nat) (cs : List Char) : Option Nat :=
  let digits := unsignedDigits cs
  if digits ≠ [] ∧ digits.all Char.isDigit ∧ numeralValue digits < bound then
    some (numeralValue digits)
  else none

/-- Names are compared without regard to the case of the letters A to Z. -/
def canonical (name : String) : String := name.toUpper

def sameName (a b : String) : Bool := canonical a == canonical b

/-! ## Pieces of a text -/

/-- The pieces between the occurrences of `separator`: one more than there are separators. -/
def splitOn (separator : Char) : List Char → List (List Char)
  | [] => [[]]
  | c :: cs =>
      if c = separator then [] :: splitOn separator cs
      else
        match splitOn separator cs with
        | [] => [[c]]
        | piece :: pieces => (c :: piece) :: pieces

/-- A line that ended in a line feed, without the carriage return in front of that line feed. -/
def dropReturn (line : List Char) : List Char :=
  match line.reverse with
  | '\r' :: front => front.reverse
  | _ => line

def linesOfPieces : List (List Char) → List (List Char)
  | [] => []
  | [[]] => []
  | [last] => [last]
  | piece :: next :: pieces => dropReturn piece :: linesOfPieces (next :: pieces)

/-- The lines of a text. A line feed ends a line, with the carriage return before it if there is
one, and a text that ends in a line feed has no further empty line. -/
def lines (text : String) : List String :=
  (linesOfPieces (splitOn '\n' text.toList)).map String.ofList

/-! ## Scanning -/

/-- Reads something at the start of a text, and gives back what follows it. -/
abbrev Scan (α : Type) := List Char → Option (α × List Char)

def hexDigit? (c : Char) : Option Nat :=
  if c.isDigit then some (c.toNat - 48)
  else if 'a' ≤ c ∧ c ≤ 'f' then some (c.toNat - 87)
  else if 'A' ≤ c ∧ c ≤ 'F' then some (c.toNat - 55)
  else none

def hexNumber : Nat → Nat → Scan Nat
  | 0, value, cs => some (value, cs)
  | count + 1, value, c :: cs =>
      match hexDigit? c with
      | some digit => hexNumber count (16 * value + digit) cs
      | none => none
  | _ + 1, _, [] => none

def charOf? (code : Nat) : Option Char :=
  if h : code.isValidChar then some (Char.ofNatAux code h) else none

end LispEngine.Text
