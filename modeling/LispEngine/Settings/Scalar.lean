import LispEngine.Text.Basic

/-!
# Texts and numbers of settings files

A settings file is a list of keys and values, one on a line. A text stands in double quotes, with
marks for special characters, or in single quotes, as it is; three quotes let it run over lines.
A whole number may be written in base ten, with a sign, or in base two, eight or sixteen, and may
have underscores between its digits.
-/

namespace LispEngine.SettingsFile

open Text (Scan hexNumber hexDigit? charOf?)

def isPlain (c : Char) : Bool := c == '\t' || (0x20 ≤ c.toNat && c.toNat != 0x7F)

def isSpace (c : Char) : Bool := c == ' ' || c == '\t'

def skipSpaces (cs : List Char) : List Char := cs.dropWhile isSpace

def lineEnd : Scan Unit
  | '\n' :: cs => some ((), cs)
  | '\r' :: '\n' :: cs => some ((), cs)
  | _ => none

/-! ## Texts -/

def codePoint (digits : Nat) (cs : List Char) : Option (Char × List Char) := do
  let (code, rest) ← hexNumber digits 0 cs
  let c ← charOf? code
  return (c, rest)

def escape : Scan Char
  | 'b' :: cs => some ('\x08', cs)
  | 't' :: cs => some ('\t', cs)
  | 'n' :: cs => some ('\n', cs)
  | 'f' :: cs => some ('\x0c', cs)
  | 'r' :: cs => some ('\r', cs)
  | '"' :: cs => some ('"', cs)
  | '\\' :: cs => some ('\\', cs)
  | 'u' :: cs => codePoint 4 cs
  | 'U' :: cs => codePoint 8 cs
  | _ => none

def quotedText : Nat → Scan (List Char)
  | 0, _ => none
  | _ + 1, [] => none
  | fuel + 1, c :: cs =>
      if c = '"' then some ([], cs)
      else if c = '\\' then do
        let (marked, rest) ← escape cs
        let (text, rest) ← quotedText fuel rest
        return (marked :: text, rest)
      else if isPlain c then do
        let (text, rest) ← quotedText fuel cs
        return (c :: text, rest)
      else none

def literalText : Scan (List Char)
  | [] => none
  | c :: cs =>
      if c = '\'' then some ([], cs)
      else if isPlain c then do
        let (text, rest) ← literalText cs
        return (c :: text, rest)
      else none

def dropLineEnd (cs : List Char) : List Char :=
  match lineEnd cs with
  | some (_, rest) => rest
  | none => cs

def skipBlankLines : Nat → List Char → List Char
  | 0, cs => cs
  | fuel + 1, cs =>
      match lineEnd (skipSpaces cs) with
      | some (_, rest) => skipBlankLines fuel rest
      | none => skipSpaces cs

/-- The end of a text in three quotes: up to two quotes more belong to the text. -/
def closing (quote : Char) (cs : List Char) : Option (List Char × List Char) :=
  let run := (cs.takeWhile (· == quote)).length
  if run < 3 then none
  else if run ≤ 5 then some (List.replicate (run - 3) quote, cs.drop run)
  else some (List.replicate 2 quote, cs.drop 5)

/-- Reads the rest of a text in three quotes. A backslash at the end of a line, in one with marks,
skips the line end and the blanks after it. -/
def longText (quote : Char) (marks : Bool) : Nat → Scan (List Char)
  | 0, _ => none
  | fuel + 1, cs =>
      match closing quote cs, lineEnd cs, cs with
      | some found, _, _ => some found
      | none, some (_, rest), _ => do
          let (text, rest) ← longText quote marks fuel rest
          return ('\n' :: text, rest)
      | none, none, [] => none
      | none, none, c :: rest =>
          if marks && c == '\\' then
            match lineEnd (skipSpaces rest) with
            | some (_, next) => longText quote marks fuel (skipBlankLines next.length next)
            | none => do
                let (marked, rest) ← escape rest
                let (text, rest) ← longText quote marks fuel rest
                return (marked :: text, rest)
          else if isPlain c then do
            let (text, rest) ← longText quote marks fuel rest
            return (c :: text, rest)
          else none

def shortText : Scan String
  | '"' :: cs => (quotedText (cs.length + 1) cs).map fun (text, rest) => (String.ofList text, rest)
  | '\'' :: cs => (literalText cs).map fun (text, rest) => (String.ofList text, rest)
  | _ => none

def anyText : Scan String
  | '"' :: '"' :: '"' :: cs =>
      let cs := dropLineEnd cs
      (longText '"' true (cs.length + 1) cs).map fun (text, rest) => (String.ofList text, rest)
  | '\'' :: '\'' :: '\'' :: cs =>
      let cs := dropLineEnd cs
      (longText '\'' false (cs.length + 1) cs).map fun (text, rest) => (String.ofList text, rest)
  | cs => shortText cs

/-! ## Whole numbers -/

def digitsOf (base : Nat) : List Char → Option (List Nat)
  | [] => none
  | [c] => ((hexDigit? c).filter (· < base)).map ([·])
  | c :: '_' :: cs => do
      let digit ← (hexDigit? c).filter (· < base)
      let digits ← digitsOf base cs
      return digit :: digits
  | c :: cs => do
      let digit ← (hexDigit? c).filter (· < base)
      let digits ← digitsOf base cs
      return digit :: digits

def valueOf (base : Nat) (digits : List Nat) : Nat :=
  digits.foldl (fun value digit => base * value + digit) 0

/-- A numeral in base ten has no zero before other digits. -/
def decimalOf? (cs : List Char) : Option Nat :=
  match cs with
  | '0' :: _ :: _ => none
  | cs => (digitsOf 10 cs).map (valueOf 10)

def integerOf? : List Char → Option Int
  | '0' :: 'x' :: cs => (digitsOf 16 cs).map fun digits => (valueOf 16 digits : Int)
  | '0' :: 'o' :: cs => (digitsOf 8 cs).map fun digits => (valueOf 8 digits : Int)
  | '0' :: 'b' :: cs => (digitsOf 2 cs).map fun digits => (valueOf 2 digits : Int)
  | '+' :: cs => (decimalOf? cs).map fun n => (n : Int)
  | '-' :: cs => (decimalOf? cs).map fun n => -(n : Int)
  | cs => (decimalOf? cs).map fun n => (n : Int)

def isNumeralChar (c : Char) : Bool := c.isAlphanum || c == '_' || c == '+' || c == '-'

def integerBound : Int := 0x8000000000000000

def integer (cs : List Char) : Option (Int × List Char) := do
  let n ← integerOf? (cs.takeWhile isNumeralChar)
  if -integerBound ≤ n ∧ n < integerBound then some (n, cs.dropWhile isNumeralChar) else none

end LispEngine.SettingsFile
