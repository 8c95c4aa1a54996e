import LispEngine.Compiler.Special

/-!
# Compiling forms

A symbol reads a variable, any other leaf and a list marked as data stand for themselves, and a list
is a call. A call of a name that is neither a special form nor a special expression is resolved when
it is evaluated, not when it is compiled.
-/

namespace LispEngine

open Compile

def compileNamedCall (inner : FormCompiler) (name : String) (arguments : List Form) :
    Compile Code := do
  let nodes ← all inner arguments
  let site ← newSite
  return .callNamed site name nodes

def compileComputedCall (inner : FormCompiler) (head : Form) (arguments : List Form) :
    Compile Code := do
  let callee ← inner head
  let nodes ← all inner arguments
  let site ← newSite
  return .callComputed site callee nodes

def setParameters (parameters : BuiltIn) (position : Position) : Compile Code := do
  let slot ← ofExcept (ParameterSlot.empty.set parameters position)
  return .form slot

def compileOperator (inner : FormCompiler) (defs : Definitions) (name : String)
    (arguments : List Form) (position : Position) : Compile Code :=
  match (defs.entry? name).map Entry.kind with
  | some (.form (.special form)) => do
      let parameters ← Special.compile inner defs form arguments position
      setParameters parameters position
  | some (.form (.host accept)) => do return .host [] (← ofExcept (accept arguments position))
  | some (.expression (.special expression)) => do
      let nodes ← all inner arguments
      let parameters ← Special.compileExpression expression nodes position
      setParameters parameters position
  | some (.expression (.host accept)) => do
      let nodes ← all inner arguments
      return .host nodes (← ofExcept (accept nodes.length position))
  | some (.function _) | none => compileNamedCall inner name arguments

def compileCall (inner : FormCompiler) (defs : Definitions) (head : Form) (arguments : List Form)
    (position : Position) : Compile Node :=
  match head with
  | .list .. => do
      let code ← compileComputedCall inner head arguments
      return ⟨code, "(" ++ head.display ++ " ...)", some position⟩
  | .leaf (.symbol name) _ _ => do
      let code ← compileOperator inner defs name arguments position
      return ⟨code, name, some position⟩
  | .leaf _ headPosition _ => refuse headPosition (.notCallable head.display)

def compileStep (inner : FormCompiler) (defs : Definitions) (form : Form) : Compile Node :=
  match form.problem with
  | some text => refuse form.position (.parseProblem text)
  | none =>
      match form with
      | .leaf (.symbol name) position _ => return ⟨.readVariable name, name, some position⟩
      | .leaf v position _ => return .ofValue v (some position)
      | .list items true position _ =>
          return ⟨.literal (.list (Form.toValues items)), form.display, some position⟩
      | .list [] false position _ => return .ofValue (.list []) (some position)
      | .list (head :: arguments) false position _ =>
          compileCall inner defs head arguments position

/-- Compiles a form of at most `height` nested forms. -/
def compileWithin (defs : Definitions) : Nat → FormCompiler
  | 0 => fun _ => throw .exhausted
  | height + 1 => compileStep (compileWithin defs height) defs

/-- Compiles a form. Only the problems of the forms that are compiled are noticed. -/
def compileForm (defs : Definitions) (form : Form) : Compile Node :=
  compileWithin defs form.size form

def compileChecked (defs : Definitions) (form : Form) : Compile Node :=
  match form.firstProblem with
  | some (text, position) => refuse position (.parseProblem text)
  | none => compileForm defs form

end LispEngine
