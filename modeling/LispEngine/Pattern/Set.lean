import LispEngine.Pattern.Escape

/-!
# Sets of characters in patterns

A set in square brackets lists characters, ranges, classes and sets, and may combine them by
intersection, difference and symmetric difference, from the left to the right.
-/

namespace LispEngine.Pattern

open Text (Scan)

/-! ## Named classes -/

def namedClasses : List (String × List String) :=
  [("alnum", ["30-39 41-5A 61-7A"]), ("alpha", ["41-5A 61-7A"]), ("ascii", ["0-7F"]),
   ("blank", ["9 20"]), ("cntrl", ["0-1F 7F"]), ("digit", ["30-39"]), ("graph", ["21-7E"]),
   ("lower", ["61-7A"]), ("print", ["20-7E"]), ("punct", ["21-2F 3A-40 5B-60 7B-7E"]),
   ("space", ["9-D 20"]), ("upper", ["41-5A"]), ("word", ["30-39 41-5A 5F 61-7A"]),
   ("xdigit", ["30-39 41-46 61-66"])]

def namedClass : Scan SetTerm
  | ':' :: cs =>
      let (negated, cs) := match cs with
        | '^' :: cs => (true, cs)
        | cs => (false, cs)
      match cs.dropWhile (· != ':') with
      | ':' :: ']' :: rest =>
          (namedClasses.lookup (String.ofList (cs.takeWhile (· != ':')))).map fun table =>
            (.named table negated, rest)
      | _ => none
  | _ => none

/-! ## Items -/

def setItem (verbose : Bool) : Scan Escaped
  | [] => none
  | '\\' :: cs => escaped verbose cs
  | c :: cs => some (.char ⟨c, false⟩, cs)

def Escaped.setTerm? : Escaped → Option SetTerm
  | .char literal => some (.char literal)
  | .letter kind negated => some (.letter kind negated)
  | .property query negated => some (.property query negated)
  | .place _ => none

def setRange (verbose : Bool) (cs : List Char) : Option (SetTerm × List Char) := do
  let (first, rest) ← setItem verbose cs
  match skip verbose rest with
  | [] => none
  | '-' :: after =>
      if glance verbose after = some ']' ∨ glance verbose after = some '-' then
        first.setTerm?.map (·, '-' :: after)
      else do
        let (last, rest) ← setItem verbose (skip verbose after)
        match first, last with
        | .char first, .char last =>
            if first.char ≤ last.char then some (.range first last, rest) else none
        | _, _ => none
  | rest => first.setTerm?.map (·, rest)

/-! ## Sets -/

/-- A set that is being read: what stands before its last operator, and the items since then, the
last one first. -/
structure OpenSet where
  negated : Bool
  left : Option (Nested SetTerm × SetOp)
  items : List (Nested SetTerm)

def OpenSet.add (set : OpenSet) (item : Nested SetTerm) : OpenSet :=
  { set with items := item :: set.items }

def OpenSet.right? (set : OpenSet) : Option (Nested SetTerm) :=
  match set.items with
  | [] => some (.leaf .empty)
  | [item] => some item
  | items => Nested.around? (.union (items.reverse.map Nested.term)) (Nested.deepest items)

def OpenSet.body? (set : OpenSet) : Option (Nested SetTerm) := do
  let right ← set.right?
  match set.left with
  | none => return right
  | some (left, op) =>
      Nested.around? (.combine op left.term right.term) (max left.depth right.depth)

def OpenSet.operate? (set : OpenSet) (op : SetOp) : Option OpenSet :=
  set.body?.map fun body => { set with left := some (body, op), items := [] }

def OpenSet.close? (set : OpenSet) : Option (Nested SetTerm) :=
  set.body?.bind fun body => Nested.around? (.bracketed body.term set.negated) body.depth

def leadingHyphens (verbose : Bool) : Nat → OpenSet → List Char → OpenSet × List Char
  | 0, set, cs => (set, cs)
  | fuel + 1, set, '-' :: cs =>
      leadingHyphens verbose fuel (set.add (.leaf (.char ⟨'-', false⟩))) (skip verbose cs)
  | _ + 1, set, cs => (set, cs)

/-- Reads the start of a set, after its opening bracket: a caret, hyphens and, where nothing stands
before it, a closing bracket. -/
def openSet (verbose : Bool) (cs : List Char) : OpenSet × List Char :=
  let (negated, cs) := match skip verbose cs with
    | '^' :: cs => (true, skip verbose cs)
    | cs => (false, cs)
  match leadingHyphens verbose cs.length ⟨negated, none, []⟩ cs with
  | (⟨negated, none, []⟩, ']' :: rest) =>
      (⟨negated, none, [.leaf (.char ⟨']', false⟩)]⟩, skip verbose rest)
  | (set, rest) => (set, rest)

def setBody (verbose : Bool) :
    Nat → OpenSet → List OpenSet → List Char → Option (Nested SetTerm × List Char)
  | 0, _, _, _ => none
  | fuel + 1, set, outer, cs =>
      match skip verbose cs with
      | [] => none
      | ']' :: rest =>
          match set.close?, outer with
          | some whole, [] => some (whole, rest)
          | some whole, parent :: outer => setBody verbose fuel (parent.add whole) outer rest
          | none, _ => none
      | '&' :: '&' :: rest =>
          (set.operate? .intersection).bind fun set => setBody verbose fuel set outer rest
      | '-' :: '-' :: rest =>
          (set.operate? .difference).bind fun set => setBody verbose fuel set outer rest
      | '~' :: '~' :: rest =>
          (set.operate? .symmetric).bind fun set => setBody verbose fuel set outer rest
      | '[' :: rest =>
          match namedClass rest with
          | some (named, rest) => setBody verbose fuel (set.add (.leaf named)) outer rest
          | none =>
              if outer.length < maxNesting then
                let (inner, rest) := openSet verbose rest
                setBody verbose fuel inner (set :: outer) rest
              else none
      | cs =>
          match setRange verbose cs with
          | some (item, rest) => setBody verbose fuel (set.add (.leaf item)) outer rest
          | none => none

def setAfter (verbose : Bool) (cs : List Char) : Option (Nested SetTerm × List Char) :=
  let (set, rest) := openSet verbose cs
  setBody verbose (cs.length + 1) set [] rest

end LispEngine.Pattern
