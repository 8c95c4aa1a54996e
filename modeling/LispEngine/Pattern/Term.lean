import LispEngine.Text.Basic

/-!
# Terms of patterns

What a pattern says before its flags are applied: characters, classes, sets, places, repetitions,
groups and alternatives, as they are written. In a verbose pattern blanks have no meaning, and
neither have comments from a number sign to the end of the line.
-/

namespace LispEngine.Pattern

/-- A character of a pattern, and whether it is given by its code in two hexadecimal digits, which
may also be read as a byte. -/
structure Literal where
  char : Char
  isByte : Bool
deriving DecidableEq, Repr

inductive LetterClass where
  | digit
  | space
  | word
deriving DecidableEq, Repr

inductive Query where
  | named (name : List Char)
  | valued (name value : List Char)
deriving DecidableEq, Repr

inductive SetOp where
  | intersection
  | difference
  | symmetric
deriving DecidableEq, Repr

inductive SetTerm where
  | empty
  | char (literal : Literal)
  | range (first last : Literal)
  | named (table : List String) (negated : Bool)
  | letter (kind : LetterClass) (negated : Bool)
  | property (query : Query) (negated : Bool)
  | bracketed (body : SetTerm) (negated : Bool)
  | union (items : List SetTerm)
  | combine (op : SetOp) (left right : SetTerm)

inductive Place where
  | lineStart
  | lineEnd
  | textStart
  | textEnd
  | wordEdge
  | notWordEdge
  | wordStart
  | wordEnd
  | wordStartHalf
  | wordEndHalf
deriving DecidableEq, Repr

inductive Flag where
  | ignoreCase
  | multiLine
  | dotAll
  | lazyFirst
  | unicode
  | carriageReturn
  | verbose
deriving DecidableEq, Repr

abbrev FlagChanges := List (Flag × Bool)

structure Bounds where
  least : Nat
  most : Option Nat
deriving DecidableEq, Repr

inductive Term where
  | empty
  | flags (changes : FlagChanges)
  | char (literal : Literal)
  | anyChar
  | place (place : Place)
  | letter (kind : LetterClass) (negated : Bool)
  | property (query : Query) (negated : Bool)
  | set (term : SetTerm)
  | repeated (bounds : Bounds) (greedy : Bool) (body : Term)
  | capture (index : Nat) (body : Term)
  | group (changes : FlagChanges) (body : Term)
  | concat (items : List Term)
  | alternatives (items : List Term)

/-! ## Nesting -/

def maxNesting : Nat := 250

/-- Something with the number of terms that it nests in each other. -/
structure Nested (α : Type) where
  term : α
  depth : Nat

def Nested.leaf {α : Type} (term : α) : Nested α := ⟨term, 0⟩

def Nested.around? {α : Type} (term : α) (depth : Nat) : Option (Nested α) :=
  if depth < maxNesting then some ⟨term, depth + 1⟩ else none

def Nested.deepest {α : Type} (items : List (Nested α)) : Nat :=
  items.foldl (fun depth item => max depth item.depth) 0

/-! ## Layout -/

/-- Skips blanks and comments; `fuel` is at least the length of the text. -/
def skipLayout : Nat → List Char → List Char
  | 0, cs => cs
  | _ + 1, [] => []
  | fuel + 1, c :: cs =>
      if Text.isBlank c then skipLayout fuel cs
      else if c = '#' then skipLayout fuel (cs.dropWhile (· != '\n'))
      else c :: cs

def skip (verbose : Bool) (cs : List Char) : List Char :=
  if verbose then skipLayout cs.length cs else cs

/-- The first character that is not blank, past one number sign; the first character if there is
none. -/
def glance (verbose : Bool) (cs : List Char) : Option Char :=
  if verbose then
    let found :=
      match cs.dropWhile Text.isBlank with
      | '#' :: rest => (rest.dropWhile Text.isBlank).head?
      | rest => rest.head?
    found.or cs.head?
  else cs.head?

end LispEngine.Pattern
