import LispEngine.World.Definitions

/-!
# Compilation

A compilation numbers the call sites that it meets. The compiler of the forms inside a form is a
parameter of the functions that compile the special forms. A step of a pipeline is compiled as a
call in which the piped value, handed over in a variable, is put in the place of the parameter that
the function marks for it, or in the first place.
-/

namespace LispEngine

/-- A compilation, with the number of the next call site as its state. -/
abbrev Compile := EStateM Signal Nat

abbrev FormCompiler := Form → Compile Node

namespace Compile

def refuse {α : Type} (position : Position) (cause : Cause) : Compile α :=
  throw (.failed (.located position cause))

def ofExcept {α : Type} : Except Failure α → Compile α
  | .ok a => pure a
  | .error failure => throw (.failed failure)

def newSite : Compile Nat := modifyGet fun next => (next, next + 1)

def all (inner : FormCompiler) : List Form → Compile (List Node)
  | [] => pure []
  | form :: forms => do
      let node ← inner form
      let nodes ← all inner forms
      return node :: nodes

def optional (inner : FormCompiler) : Option Form → Compile (Option Node)
  | none => pure none
  | some form => do return some (← inner form)

def expect (form : String) (parameters : List Form) (position : Position) (arity : Arity) :
    Compile Unit :=
  if arity.accepts parameters.length then pure ()
  else refuse position (.formArity form arity parameters.length)

def symbolName (form : Form) (what : String) : Compile String :=
  match form.symbol? with
  | some name => pure name
  | none => refuse form.position (.notSymbol what form.display)

def errorKind (form : Form) : Compile ErrorKind := do
  let name ← symbolName form "exception kind"
  match ErrorKind.ofName? name with
  | some kind => return kind
  | none => refuse form.position (.unknownKind name)

end Compile

/-! ## Pipelines -/

def pipeVariable : String := "->%value"

/-- The place of the piped value among the arguments of a call, `count` other arguments given. -/
def pipePosition (defs : Definitions) (head : String) (count : Nat) : Nat :=
  match defs.functionSpec? head with
  | none => 0
  | some spec =>
      match spec.pipeIndex? with
      | none => 0
      | some index =>
          if (spec.parameters.take index).all (·.role.isPositional) then min index count else 0

def pipeStep (defs : Definitions) (step : Form) : Except Failure Form :=
  let slot := Form.ofSymbol pipeVariable step.position
  match step with
  | .leaf (.symbol _) position _ => .ok (.ofItems [step, slot] position)
  | .list (head :: arguments) false position _ =>
      let place :=
        match head.symbol? with
        | some name => pipePosition defs name arguments.length
        | none => 0
      .ok (.ofItems (head :: (arguments.take place ++ slot :: arguments.drop place)) position)
  | step => .error (.located step.position (.pipeStep step.display))

end LispEngine
