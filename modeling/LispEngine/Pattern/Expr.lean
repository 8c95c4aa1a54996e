import LispEngine.Character.Set
import LispEngine.Pattern.Term

/-!
# Expressions

An expression says what a pattern matches, with its flags applied. The functions that build
expressions keep them simple: a set of one character is a text, texts side by side are one text,
alternatives of single characters are a set, and what alternatives begin with in common stands
before them.
-/

namespace LispEngine.Pattern

inductive Look where
  | start
  | finish
  | lineStart (carriageReturn : Bool)
  | lineEnd (carriageReturn : Bool)
  | word (place : Place) (unicode : Bool)
deriving DecidableEq, Repr

inductive Expr where
  | empty
  | text (cs : List Char)
  | oneOf (set : CharSet)
  | look (found : Look)
  | repeated (bounds : Bounds) (greedy : Bool) (body : Expr)
  | capture (index : Nat) (body : Expr)
  | concat (items : List Expr)
  | alternatives (items : List Expr)
deriving BEq

namespace Expr

def charLength (code : Nat) : Nat :=
  if code < 0x80 then 1 else if code < 0x800 then 2 else if code < 0x10000 then 3 else 4

/-! ## Lengths of matches -/

mutual

def minLength : Expr → Option Nat
  | empty | look _ => some 0
  | text cs => some ((cs.map fun c => charLength c.toNat).sum)
  | oneOf set => set.ranges.head?.map fun range => charLength range.first
  | repeated bounds _ body => body.minLength.map (· * bounds.least)
  | capture _ body => body.minLength
  | concat items => minLengthSum items
  | alternatives items => minLengthLeast items

def minLengthSum : List Expr → Option Nat
  | [] => some 0
  | item :: items => item.minLength.bind fun m => (minLengthSum items).map (m + ·)

def minLengthLeast : List Expr → Option Nat
  | [] => none
  | [item] => item.minLength
  | item :: items => item.minLength.bind fun m => (minLengthLeast items).map (min m)

end

mutual

def isEmptyOnly : Expr → Bool
  | empty | look _ => true
  | text _ | oneOf _ => false
  | repeated _ _ body => body.isEmptyOnly
  | capture _ body => body.isEmptyOnly
  | concat items => allEmptyOnly items
  | alternatives items => allEmptyOnly items

def allEmptyOnly : List Expr → Bool
  | [] => true
  | item :: items => item.isEmptyOnly && allEmptyOnly items

end

/-! ## Directions -/

mutual

def reverse : Expr → Expr
  | repeated bounds greedy body => repeated bounds greedy body.reverse
  | capture index body => capture index body.reverse
  | concat items => concat (reverseAll items [])
  | alternatives items => alternatives (reverseEach items)
  | other => other

def reverseAll : List Expr → List Expr → List Expr
  | [], done => done
  | item :: items, done => reverseAll items (item.reverse :: done)

def reverseEach : List Expr → List Expr
  | [] => []
  | item :: items => item.reverse :: reverseEach items

end

mutual

def beginsAt (place : Look) : Expr → Bool
  | empty | text _ | oneOf _ => false
  | look found => found == place
  | repeated bounds _ body => bounds.least != 0 && beginsAt place body
  | capture _ body => beginsAt place body
  | concat items => firstBeginsAt place items
  | alternatives items => allBeginAt place items

/-- Whether one of the items does, up to the first that matches more than the empty text. -/
def firstBeginsAt (place : Look) : List Expr → Bool
  | [] => false
  | item :: items => beginsAt place item || (item.isEmptyOnly && firstBeginsAt place items)

def allBeginAt (place : Look) : List Expr → Bool
  | [] => true
  | item :: items => beginsAt place item && allBeginAt place items

end

/-! ## Building -/

def ofSet (set : CharSet) : Expr :=
  match set.only? with
  | some c => text [c]
  | none => oneOf set

/-- A repetition. What matches only the empty text need not be repeated. -/
def repeatedOf (bounds : Bounds) (greedy : Bool) (body : Expr) : Expr :=
  let bounds : Bounds :=
    if body.isEmptyOnly then ⟨min bounds.least 1, some (min (bounds.most.getD 1) 1)⟩ else bounds
  if bounds.most = some 0 then empty
  else if bounds = ⟨1, some 1⟩ then body
  else repeated bounds greedy body

def concatParts : Expr → List Expr
  | concat items => items
  | empty => []
  | other => [other]

def joinTexts : List Expr → List Expr
  | [] => []
  | item :: items =>
      match item, joinTexts items with
      | text front, text rest :: others => text (front ++ rest) :: others
      | item, others => item :: others

def concatOf (items : List Expr) : Expr :=
  match joinTexts (items.flatMap concatParts) with
  | [] => empty
  | [item] => item
  | items => concat items

def alternativeParts : Expr → List Expr
  | alternatives items => items
  | other => [other]

def singles? (items : List Expr) : Option CharSet :=
  (items.mapM fun
    | text [c] => some (CharRange.single c.toNat)
    | _ => none).map CharSet.ofRanges

def sets? (items : List Expr) : Option CharSet :=
  (items.mapM fun
    | oneOf set => some set
    | _ => none).map CharSet.unionAll

def gather (items : List Expr) : Expr :=
  match items with
  | [] => oneOf .empty
  | [item] => item
  | items =>
      match (singles? items).or (sets? items) with
      | some set => ofSet set
      | none => alternatives items

def commonLength : List Expr → List Expr → Nat
  | a :: as, b :: bs => if a == b then commonLength as bs + 1 else 0
  | _, _ => 0

def shared (items : List Expr) : List Expr :=
  let lists := items.mapM fun
    | concat items => some items
    | _ => none
  match lists with
  | some (first :: others) =>
      first.take (others.foldl (fun n other => min n (commonLength first other)) first.length)
  | _ => []

/-- Alternatives. What they begin with in common is written once, and nothing is left in common
after that. -/
def alternativesOf (items : List Expr) : Expr :=
  match gather (items.flatMap alternativeParts) with
  | alternatives items =>
      match shared items with
      | [] => alternatives items
      | front =>
          let rests := items.map fun item => concatOf (item.concatParts.drop front.length)
          concatOf (front ++ [gather (rests.flatMap alternativeParts)])
  | other => other

end Expr

end LispEngine.Pattern
