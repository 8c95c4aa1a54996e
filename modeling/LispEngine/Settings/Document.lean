import LispEngine.Settings.Scalar

/-!
# Settings files

Keys are bare or quoted and may be dotted, and values are texts, whole numbers, lists and inline
tables; headers open tables. No setting has a value of another sort, nor a list with elements, so
such files are not read at all.
-/

namespace LispEngine.SettingsFile

open Text (Scan)

/-- How a table came about: written in braces, opened by a header, named on the way to a header or
in a dotted key. -/
inductive Origin where
  | inline
  | header
  | passed
  | dotted
deriving DecidableEq, Repr

inductive Item where
  | text (text : String)
  | number (n : Int)
  | emptyList
  | table (origin : Origin) (entries : List (String × Item))

abbrev Entries := List (String × Item)

def Entries.put (key : String) (item : Item) : Entries → Entries
  | [] => [(key, item)]
  | (k, old) :: rest =>
      if k = key then (key, item) :: rest else (k, old) :: Entries.put key item rest

/-- Adds a value under a dotted key. A key is given a value once. -/
def addValue (item : Item) : List String → Entries → Option Entries
  | [], _ => none
  | [key], entries =>
      match entries.lookup key with
      | none => some (Entries.put key item entries)
      | some _ => none
  | key :: path, entries =>
      match entries.lookup key with
      | none => do
          let inner ← addValue item path []
          return Entries.put key (.table .dotted inner) entries
      | some (.table .dotted inner) => do
          let inner ← addValue item path inner
          return Entries.put key (.table .dotted inner) entries
      | some _ => none

/-- Opens a table by a header. A table is opened once. -/
def openTable : List String → Entries → Option Entries
  | [], _ => none
  | [key], entries =>
      match entries.lookup key with
      | none => some (Entries.put key (.table .header []) entries)
      | some (.table .passed inner) => some (Entries.put key (.table .header inner) entries)
      | some _ => none
  | key :: path, entries =>
      match entries.lookup key with
      | none => do
          let inner ← openTable path []
          return Entries.put key (.table .passed inner) entries
      | some (.table .inline _) => none
      | some (.table origin inner) => do
          let inner ← openTable path inner
          return Entries.put key (.table origin inner) entries
      | some _ => none

def addAt (item : Item) (key : List String) : List String → Entries → Option Entries
  | [], entries => addValue item key entries
  | name :: path, entries =>
      match entries.lookup name with
      | some (.table origin inner) => do
          let inner ← addAt item key path inner
          return Entries.put name (.table origin inner) entries
      | _ => none

/-! ## Reading -/

def isBareChar (c : Char) : Bool := c.isAlphanum || c == '_' || c == '-'

def simpleKey (cs : List Char) : Option (String × List Char) :=
  match cs.takeWhile isBareChar with
  | [] => shortText cs
  | bare => some (String.ofList bare, cs.dropWhile isBareChar)

def dottedKey : Nat → Scan (List String)
  | 0, _ => none
  | fuel + 1, cs => do
      let (first, rest) ← simpleKey (skipSpaces cs)
      match skipSpaces rest with
      | '.' :: rest => do
          let (path, rest) ← dottedKey fuel rest
          return (first :: path, rest)
      | rest => return ([first], rest)

def skipComment : List Char → List Char
  | '#' :: cs => cs.dropWhile isPlain
  | cs => cs

def skipLayout : Nat → List Char → List Char
  | 0, cs => cs
  | fuel + 1, cs =>
      let rest := skipComment (skipSpaces cs)
      match lineEnd rest with
      | some (_, next) => skipLayout fuel next
      | none => rest

mutual

def item : Nat → Scan Item
  | 0, _ => none
  | fuel + 1, cs =>
      match cs with
      | '"' :: _ | '\'' :: _ => (anyText cs).map fun (text, rest) => (.text text, rest)
      | '[' :: rest =>
          match skipLayout rest.length rest with
          | ']' :: rest => some (.emptyList, rest)
          | _ => none
      | '\x7b' :: rest =>
          match skipSpaces rest with
          | '\x7d' :: rest => some (.table .inline [], rest)
          | rest => (inlineEntries fuel [] rest).map fun (entries, rest) =>
              (.table .inline entries, rest)
      | cs => (integer cs).map fun (n, rest) => (.number n, rest)

def inlineEntries : Nat → Entries → Scan Entries
  | 0, _, _ => none
  | fuel + 1, entries, cs =>
      match dottedKey (cs.length + 1) cs with
      | some (key, '=' :: rest) =>
          match item fuel (skipSpaces rest) with
          | some (value, rest) =>
              match addValue value key entries, skipSpaces rest with
              | some entries, '\x7d' :: rest => some (entries, rest)
              | some entries, ',' :: rest => inlineEntries fuel entries rest
              | _, _ => none
          | none => none
      | _ => none

end

structure Reading where
  path : List String
  entries : Entries

def header (reading : Reading) (cs : List Char) : Option (Reading × List Char) := do
  let (path, rest) ← dottedKey (cs.length + 1) cs
  match rest with
  | ']' :: rest => do
      let entries ← openTable path reading.entries
      return ({ path, entries }, rest)
  | _ => none

def keyValue (reading : Reading) (cs : List Char) : Option (Reading × List Char) := do
  let (key, rest) ← dottedKey (cs.length + 1) cs
  match rest with
  | '=' :: rest => do
      let (value, rest) ← item (rest.length + 1) (skipSpaces rest)
      let entries ← addAt value key reading.path reading.entries
      return ({ reading with entries }, rest)
  | _ => none

def statement (reading : Reading) : Scan Reading
  | '[' :: cs => header reading cs
  | cs => keyValue reading cs

def statements : Nat → Reading → List Char → Option Entries
  | 0, _, _ => none
  | fuel + 1, reading, cs =>
      match skipLayout cs.length cs with
      | [] => some reading.entries
      | cs => do
          let (reading, rest) ← statement reading cs
          match skipComment (skipSpaces rest) with
          | [] => some reading.entries
          | rest => do
              let (_, rest) ← lineEnd rest
              statements fuel reading rest

def parse (text : String) : Option Entries :=
  let cs :=
    match text.toList with
    | '\ufeff' :: cs => cs
    | cs => cs
  statements (cs.length + 1) ⟨[], []⟩ cs

end LispEngine.SettingsFile
