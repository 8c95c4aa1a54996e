import LispEngine.Pattern.Count
import LispEngine.Pattern.Group
import LispEngine.Pattern.Set

/-!
# Reading patterns

A pattern is read from the left to the right. Its text gives a term, unless it is malformed.
-/

namespace LispEngine.Pattern

/-- A group that is being read: what it will be, whether layout is skipped in it, its alternatives
before the last bar and the parts since then, the last one first. -/
structure OpenGroup where
  head : GroupHead
  index : Nat
  verbose : Bool
  alternatives : List (Nested Term)
  parts : List (Nested Term)

/-- The state of reading: the group that is read, those around it, the names that have been given
and the number of groups that capture. -/
structure Reading where
  group : OpenGroup
  outer : List OpenGroup
  names : List (List Char)
  captures : Nat

def OpenGroup.add (group : OpenGroup) (part : Nested Term) : OpenGroup :=
  { group with parts := part :: group.parts }

def OpenGroup.last? (group : OpenGroup) : Option (Nested Term) :=
  match group.parts with
  | [] => some (.leaf .empty)
  | [part] => some part
  | parts => Nested.around? (.concat (parts.reverse.map Nested.term)) (Nested.deepest parts)

def OpenGroup.body? (group : OpenGroup) : Option (Nested Term) := do
  let last ← group.last?
  match group.alternatives with
  | [] => return last
  | alternatives =>
      let all := last :: alternatives
      Nested.around? (.alternatives (all.reverse.map Nested.term)) (Nested.deepest all)

def OpenGroup.alternate? (group : OpenGroup) : Option OpenGroup :=
  group.last?.map fun last =>
    { group with alternatives := last :: group.alternatives, parts := [] }

def OpenGroup.term (group : OpenGroup) (body : Term) : Term :=
  match group.head with
  | .flagged changes | .flagsOnly changes => .group changes body
  | .capture | .named _ => .capture group.index body

def OpenGroup.close? (group : OpenGroup) : Option (Nested Term) :=
  group.body?.bind fun body => Nested.around? (group.term body.term) body.depth

def Reading.add (reading : Reading) (term : Term) : Reading :=
  { reading with group := reading.group.add (.leaf term) }

def Reading.enter (reading : Reading) (head : GroupHead) (verbose : Bool) : Option Reading :=
  if reading.outer.length < maxNesting then
    some { reading with
      group := ⟨head, reading.captures, verbose, [], []⟩
      outer := reading.group :: reading.outer }
  else none

def Reading.enterCapture (reading : Reading) (head : GroupHead) : Option Reading :=
  ({ reading with captures := reading.captures + 1 } : Reading).enter head reading.group.verbose

def Reading.openGroup (reading : Reading) (cs : List Char) : Option (Reading × List Char) := do
  let verbose := reading.group.verbose
  match ← groupHead verbose cs with
  | (.capture, rest) => (reading.enterCapture .capture).map (·, rest)
  | (.named name, rest) =>
      if reading.names.contains name then none
      else
        (({ reading with names := name :: reading.names } : Reading).enterCapture
          (.named name)).map (·, rest)
  | (.flagged changes, rest) =>
      (reading.enter (.flagged changes) (verboseAfter verbose changes)).map (·, rest)
  | (.flagsOnly changes, rest) =>
      let group := reading.group.add (.leaf (.flags changes))
      some ({ reading with
        group := { group with verbose := verboseAfter verbose changes } }, rest)

def Reading.closeGroup (reading : Reading) : Option Reading :=
  match reading.outer with
  | [] => none
  | outer :: rest => reading.group.close?.map fun whole =>
      { reading with group := outer.add whole, outer := rest }

/-- Repeats the last part. Nothing and flags cannot be repeated. -/
def Reading.replicate (reading : Reading) (bounds : Bounds) (greedy : Bool) : Option Reading :=
  match reading.group.parts with
  | ⟨.empty, _⟩ :: _ | ⟨.flags _, _⟩ :: _ | [] => none
  | part :: parts =>
      (Nested.around? (.repeated bounds greedy part.term) part.depth).map fun whole =>
        { reading with group := { reading.group with parts := whole :: parts } }

def Reading.replicateAfter (reading : Reading) (bounds : Bounds) (cs : List Char) :
    Option (Reading × List Char) :=
  match cs with
  | '?' :: rest => (reading.replicate bounds false).map (·, rest)
  | rest => (reading.replicate bounds true).map (·, rest)

def Escaped.term : Escaped → Term
  | .char literal => .char literal
  | .letter kind negated => .letter kind negated
  | .property query negated => .property query negated
  | .place kind => .place kind

def step (reading : Reading) (cs : List Char) : Option (Reading × List Char) :=
  let verbose := reading.group.verbose
  match cs with
  | [] => none
  | '(' :: rest => reading.openGroup rest
  | ')' :: rest => reading.closeGroup.map (·, rest)
  | '|' :: rest => reading.group.alternate?.map fun group => ({ reading with group }, rest)
  | '[' :: rest => (setAfter verbose rest).map fun (set, rest) =>
      ({ reading with group := reading.group.add ⟨.set set.term, set.depth⟩ }, rest)
  | '?' :: rest => reading.replicateAfter ⟨0, some 1⟩ rest
  | '*' :: rest => reading.replicateAfter ⟨0, none⟩ rest
  | '+' :: rest => reading.replicateAfter ⟨1, none⟩ rest
  | '\x7b' :: rest => do
      let (bounds, rest) ← bounds verbose rest
      reading.replicateAfter bounds (skip verbose rest)
  | '\\' :: rest => (escaped verbose rest).map fun (found, rest) => (reading.add found.term, rest)
  | '.' :: rest => some (reading.add .anyChar, rest)
  | '^' :: rest => some (reading.add (.place .lineStart), rest)
  | '$' :: rest => some (reading.add (.place .lineEnd), rest)
  | c :: rest => some (reading.add (.char ⟨c, false⟩), rest)

def complete : Nat → Reading → List Char → Option Term
  | 0, _, _ => none
  | fuel + 1, reading, cs =>
      match skip reading.group.verbose cs with
      | [] => if reading.outer.isEmpty then reading.group.body?.map Nested.term else none
      | cs => (step reading cs).bind fun (reading, rest) => complete fuel reading rest

def read? (pattern : String) : Option Term :=
  complete (pattern.length + 1) ⟨⟨.capture, 0, false, [], []⟩, [], [], 0⟩ pattern.toList

end LispEngine.Pattern
