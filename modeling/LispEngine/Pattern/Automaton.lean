import LispEngine.Pattern.Meaning
import LispEngine.Pattern.Reader
import LispEngine.Pattern.Sharing
import LispEngine.Value.Basic

/-!
# Automata of expressions

An expression is matched by two automata, one that reads forward and one that reads backward from
the end of a match. A repetition is written out as often as its bounds say. What is computed here is
the size of the automata, as far as it is within the limit. A text is a pattern if it can be read,
all properties in it are known, what it matches are characters, and its automata are not too large.
-/

namespace LispEngine.Pattern

inductive Direction where
  | forward
  | backward
deriving DecidableEq, Repr

/-! ## Plans -/

inductive Plan where
  | fixed (size : Size)
  | wide (sequences : List (List ByteRange))
  | repeated (bounds : Bounds) (consumes : Bool) (body : Plan)
  | capture (body : Plan)
  | concat (items : List Plan)
  | alternatives (items : List Plan)

def textBytes (cs : List Char) : List Nat := cs.flatMap fun c => bytesOf c.toNat

def setPlan (set : CharSet) : Plan :=
  if set.isAscii then .fixed ⟨2, Size.byteRoom * set.ranges.length⟩
  else .wide (setSequences set)

def texts? (direction : Direction) (items : List Expr) : Option (List (List Nat)) :=
  items.mapM fun
    | .text cs =>
        match direction with
        | .forward => some (textBytes cs)
        | .backward => some (textBytes cs).reverse
    | _ => none

mutual

/-- The plan for an expression whose parts stand in the order of the direction. Only reading forward
captures. -/
def Expr.plan (direction : Direction) : Expr → Plan
  | .empty | .look _ => .fixed ⟨1, 0⟩
  | .text cs => .fixed ⟨(textBytes cs).length, 0⟩
  | .oneOf set => setPlan set
  | .repeated bounds _ body =>
      .repeated bounds (body.minLength.any (0 < ·)) (body.plan direction)
  | .capture _ body =>
      match direction with
      | .forward => .capture (body.plan direction)
      | .backward => body.plan direction
  | .concat items => .concat (plans direction items)
  | .alternatives items =>
      match texts? direction items with
      | some texts => .fixed (textsSize texts)
      | none => .alternatives (plans direction items)

def plans (direction : Direction) : List Expr → List Plan
  | [] => []
  | item :: items => item.plan direction :: plans direction items

end

/-! ## Building -/

/-- Adds a part to an automaton. The truth value says whether the part ends in a choice, which then
takes more room for the way out to what follows. -/
abbrev Build := Size → Option (Size × Bool)

def joinEnd (choice : Bool) (size : Size) : Option Size :=
  if choice then size.addChoices 1 else some size

def buildAfter (build : Build) : Nat → Size → Bool → Option (Size × Bool)
  | 0, size, choice => some (size, choice)
  | count + 1, size, choice =>
      match build size with
      | none => none
      | some (size, last) =>
          match joinEnd choice size with
          | none => none
          | some size => buildAfter build count size last

def buildExactly (build : Build) : Nat → Build
  | 0, size => (size.add 1 0).map (·, false)
  | count + 1, size => (build size).bind fun (size, choice) => buildAfter build count size choice

def buildOptional (build : Build) : Nat → Size → Bool → Option (Size × Bool)
  | 0, size, choice => (joinEnd choice size).map (·, false)
  | count + 1, size, choice =>
      match size.add 1 (2 * Size.choiceRoom) with
      | none => none
      | some size =>
          match build size with
          | none => none
          | some (size, last) =>
              match joinEnd choice size with
              | none => none
              | some size => buildOptional build count size last

def buildMaybe (build : Build) : Build := fun size => do
  let size ← size.add 1 (2 * Size.choiceRoom)
  let (size, choice) ← build size
  let size ← size.add 1 0
  let size ← joinEnd choice size
  return (size, false)

/-- Any number of parts. A part that can match the empty text must be left on a way of its own. -/
def buildMany (consumes : Bool) (build : Build) : Build := fun size =>
  if consumes then do
    let size ← size.add 1 Size.choiceRoom
    let (size, choice) ← build size
    let size ← joinEnd choice size
    return (size, true)
  else do
    let (size, choice) ← build size
    let size ← size.add 3 (4 * Size.choiceRoom)
    let size ← joinEnd choice size
    return (size, false)

def buildLoop (build : Build) : Build := fun size => do
  let (size, choice) ← build size
  let size ← size.add 1 Size.choiceRoom
  let size ← joinEnd choice size
  return (size, true)

def buildRepeated (bounds : Bounds) (consumes : Bool) (build : Build) : Build := fun size =>
  match bounds.least, bounds.most with
  | 0, some 1 => buildMaybe build size
  | 0, none => buildMany consumes build size
  | 1, none => buildLoop build size
  | least, none => do
      let (size, front) ← buildExactly build (least - 1) size
      let (size, choice) ← buildLoop build size
      let size ← joinEnd front size
      return (size, choice)
  | least, some most =>
      if least = most then buildExactly build least size
      else do
        let (size, choice) ← buildExactly build least size
        let size ← size.add 1 0
        buildOptional build (most - least) size choice

def buildCapture (build : Build) : Build := fun size => do
  let size ← size.add 1 0
  let (size, choice) ← build size
  let size ← size.add 1 0
  let size ← joinEnd choice size
  return (size, false)

def buildWide (direction : Direction) (sequences : List (List ByteRange)) : Build := fun size =>
  (match direction with
    | .forward => size.addForward sequences
    | .backward => size.addBackward sequences).map (·, false)

mutual

def Plan.build (direction : Direction) : Plan → Build
  | .fixed added => fun size => (size.add added.states added.extra).map (·, false)
  | .wide sequences => buildWide direction sequences
  | .repeated bounds consumes body => buildRepeated bounds consumes (body.build direction)
  | .capture body => buildCapture (body.build direction)
  | .concat items => fun size => buildItems direction items size none
  | .alternatives items => fun size =>
      (buildEach direction items 0 size).map (·, false)

def buildItems (direction : Direction) : List Plan → Size → Option Bool → Option (Size × Bool)
  | [], size, none => (size.add 1 0).map (·, false)
  | [], size, some choice => some (size, choice)
  | item :: items, size, choice => do
      let (size, last) ← item.build direction size
      let size ← joinEnd (choice.getD false) size
      buildItems direction items size (some last)

/-- Builds items side by side, of which some are there already. The choice between them and their
common end come with the second one. -/
def buildEach (direction : Direction) : List Plan → Nat → Size → Option Size
  | [], _, size => some size
  | item :: items, before, size => do
      let (size, choice) ← item.build direction size
      let size ← if before = 1 then size.add 2 0 else some size
      let size ← joinEnd choice size
      let size ← size.addChoices 1
      buildEach direction items (before + 1) size

end

/-! ## Whole automata -/

/-- The start of an automaton: one state if every match begins at the edge of the text, else a loop
over all bytes. -/
def startSize (anchored : Bool) : Size :=
  if anchored then ⟨1, 0⟩ else ⟨3, Size.byteRoom + 2 * Size.choiceRoom⟩

/-- Whether the automaton that reads forward is within the limit. The whole match is captured. -/
def Expr.fitsForward (expr : Expr) : Bool :=
  let build := buildCapture ((expr.plan .forward).build .forward)
  ((build (startSize (expr.beginsAt .start))).bind fun (size, _) => size.add 1 0).isSome

def Expr.fitsBackward (expr : Expr) : Bool :=
  let expr := expr.reverse
  let build := (expr.plan .backward).build .backward
  ((build (startSize (expr.beginsAt .finish))).bind fun (size, choice) =>
    (size.add 1 0).bind (joinEnd choice)).isSome

def Expr.fits (expr : Expr) : Bool := expr.fitsForward && expr.fitsBackward

def isWellFormed (pattern : String) : Bool :=
  ((read? pattern).bind (·.expr? .initial)).any fun (expr, _) => expr.fits

end LispEngine.Pattern

namespace LispEngine

def Value.regexOf (pattern : String) : Except Cause Value :=
  if Pattern.isWellFormed pattern then .ok (.regex pattern) else .error .badPattern

end LispEngine
