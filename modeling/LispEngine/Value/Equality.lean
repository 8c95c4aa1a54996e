import LispEngine.Value.Basic

/-!
# Maps, and equality of values

Keys are ordered by their sort, and within a sort by their name or value. Maps keep their entries in
that order, with one entry for each key. Lists are equal item by item and maps entry by entry.
Functions, failures and objects are equal only to themselves.
-/

namespace LispEngine

namespace Key

def rank : Key → Nat
  | keyword _ => 0
  | symbol _ => 1
  | string _ => 2
  | number _ => 3
  | bool _ => 4

def before : Key → Key → Bool
  | keyword a, keyword b => decide (a < b)
  | symbol a, symbol b => decide (a < b)
  | string a, string b => decide (a < b)
  | number a, number b => decide (a < b)
  | bool a, bool b => !a && b
  | a, b => decide (a.rank < b.rank)

end Key

namespace Value

def insertEntry (key : Key) (value : Value) : List (Key × Value) → List (Key × Value)
  | [] => [(key, value)]
  | (k, v) :: entries =>
      if k = key then (key, value) :: entries
      else if key.before k then (key, value) :: (k, v) :: entries
      else (k, v) :: insertEntry key value entries

/-- The map of the given pairs, a later one replacing an earlier one with the same key. -/
def mapOf (pairs : List (Key × Value)) : Value :=
  .map (pairs.foldl (fun entries pair => insertEntry pair.1 pair.2 entries) [])

/-! ## Equality -/

def equalAtom : Value → Value → Bool
  | nil, nil => true
  | bool a, bool b => a == b
  | number a, number b => a.equal b
  | char a, char b => a == b
  | string a, string b => a == b
  | symbol a, symbol b => a == b
  | keyword a, keyword b => a == b
  | regex a, regex b => a == b
  | function a, function b => a.id == b.id
  | error a _, error b _ => a == b
  | object a _ _, object b _ _ => a == b
  | _, _ => false

mutual

def equal : Value → Value → Bool
  | list xs, list ys => equalItems xs ys
  | map xs, map ys => equalEntries xs ys
  | v, w => equalAtom v w

def equalItems : List Value → List Value → Bool
  | [], [] => true
  | v :: vs, w :: ws => v.equal w && equalItems vs ws
  | _, _ => false

def equalEntries : List (Key × Value) → List (Key × Value) → Bool
  | [], [] => true
  | (j, v) :: vs, (k, w) :: ws => j == k && v.equal w && equalEntries vs ws
  | _, _ => false

end

end Value

end LispEngine
