import LispEngine.Character.Trait
import LispEngine.Pattern.Term

/-!
# Groups of patterns

A parenthesis opens a group, which may have a name or flags; flags in parentheses of their own hold
to the end of the group around them.
-/

namespace LispEngine.Pattern

open Text (Scan)

/-! ## Names -/

/-- Letters and numbers that are newer than the tables of traits and categories. -/
def newerLetters : List String :=
  ["88F C5C CDC A7CE-A7CF A7D2 A7D4 A7F1 10940-10959 10EC5-10EC7 10EFA-10EFB 11B60-11B67",
   "11DB0-11DDB 16EA0-16EB8 16EBB-16ED3 16FF2-16FF6 187F8-187FF 18D09-18D1E 18D80-18DF2",
   "1E6C0-1E6DE 1E6E0-1E6F5 1E6FE-1E6FF 2B73A-2B73F 2CEA2-2CEAD 323B0-33479"]

def newerNumbers : List String := ["11DE0-11DE9"]

def isLetter (c : Char) : Bool :=
  if c.toNat < 128 then c.isAlpha
  else Trait.alphabetic.contains c.toNat || (CharSet.ofTable newerLetters).contains c.toNat

def isNumber (c : Char) : Bool :=
  if c.toNat < 128 then c.isDigit
  else (GeneralCategory.membersOf GeneralCategory.numbers).contains c.toNat ||
    (CharSet.ofTable newerNumbers).contains c.toNat

def isNameStart (c : Char) : Bool := c == '_' || isLetter c

def isNameRest (c : Char) : Bool :=
  c == '.' || c == '[' || c == ']' || isNameStart c || isNumber c

def groupName (cs : List Char) : Option (List Char × List Char) :=
  match cs.takeWhile (· != '>'), cs.dropWhile (· != '>') with
  | c :: name, _ :: rest =>
      if isNameStart c && name.all isNameRest then some (c :: name, rest) else none
  | _, _ => none

/-! ## Flags -/

def flagOf? : Char → Option Flag
  | 'i' => some .ignoreCase
  | 'm' => some .multiLine
  | 's' => some .dotAll
  | 'U' => some .lazyFirst
  | 'u' => some .unicode
  | 'R' => some .carriageReturn
  | 'x' => some .verbose
  | _ => none

/-- Reads flags up to a colon or the closing parenthesis. Each is named once; those after a hyphen
are switched off, and at least one has to follow it. -/
def flags : List Char → Bool → Scan FlagChanges
  | _, _, [] => none
  | seen, negated, c :: cs =>
      if c = ':' ∨ c = ')' then (if seen.head? = some '-' then none else some ([], c :: cs))
      else if seen.contains c then none
      else if c = '-' then flags (c :: seen) true cs
      else do
        let flag ← flagOf? c
        let (changes, rest) ← flags (c :: seen) negated cs
        return ((flag, !negated) :: changes, rest)

def verboseAfter (verbose : Bool) (changes : FlagChanges) : Bool :=
  (changes.lookup .verbose).getD verbose

/-! ## Heads -/

inductive GroupHead where
  | capture
  | named (name : List Char)
  | flagged (changes : FlagChanges)
  | flagsOnly (changes : FlagChanges)

def groupHead (verbose : Bool) (cs : List Char) : Option (GroupHead × List Char) :=
  match skip verbose cs with
  | '?' :: '=' :: _ | '?' :: '!' :: _ | '?' :: '<' :: '=' :: _ | '?' :: '<' :: '!' :: _ => none
  | '?' :: 'P' :: '<' :: rest | '?' :: '<' :: rest =>
      (groupName rest).map fun (name, rest) => (.named name, rest)
  | '?' :: rest => do
      match ← flags [] false rest with
      | (changes, ':' :: after) => some (.flagged changes, after)
      | (changes, _ :: after) =>
          if rest.head? = some ')' then none else some (.flagsOnly changes, after)
      | _ => none
  | rest => some (.capture, rest)

end LispEngine.Pattern
