import LispEngine.Form
import LispEngine.LambdaList.Reader

/-!
# Compiled forms

A node is a compiled form: its code, the name that it has in a backtrace, and its position. The code
of a built-in form is made without its parameters, which are set once, when they are compiled, and
looked for when the form is evaluated. Code refers to the nodes inside it; the type of code is given
for any type `N` of inner nodes, so that the direct inner nodes of any code can be listed at once.
-/

namespace LispEngine

/-- What a part of the embedding program does when it runs: it ends with a value, a failure or a
return, calls a function, or evaluates one of the parameters that it was compiled with. -/
inductive HostAction where
  | yield (v : Value)
  | fail (failure : Failure)
  | leave (v : Value)
  | call (callee : FunctionRef) (arguments : List Value) (next : Value → HostAction)
  | evaluate (index : Nat) (next : Value → HostAction)

namespace HostAction

def ofExcept : Except Failure Value → HostAction
  | .ok v => .yield v
  | .error failure => .fail failure

def refuseForms (position : Position) : Except Failure HostAction :=
  .error (.located position .formParameters)

def refuseNodes (position : Position) : Except Failure HostAction :=
  .error (.located position .expressionParameters)

def collect : List Nat → List Value → HostAction
  | [], vs => .yield (.list vs.reverse)
  | index :: rest, vs => .evaluate index fun v => collect rest (v :: vs)

end HostAction

/-- Where an assignment puts its value: in the root frame, or where the name is bound nearest. -/
inductive Discipline where
  | global
  | nearest
deriving DecidableEq, Repr

structure CatchClause (N : Type) where
  kind : ErrorKind
  variableName : String
  body : List N

structure LambdaParts (N : Type) where
  spec : LambdaList N
  doc : Option String
  body : List N

/-- A place for the parameters of an operator, which are set at most once. -/
structure ParameterSlot (α : Type) where
  content : Option α

namespace ParameterSlot

variable {α : Type}

def empty : ParameterSlot α := ⟨none⟩

def set (slot : ParameterSlot α) (parameters : α) (position : Position) :
    Except Failure (ParameterSlot α) :=
  match slot.content with
  | none => .ok ⟨some parameters⟩
  | some _ => .error (.located position .parametersSet)

def get (slot : ParameterSlot α) : Except Failure α :=
  match slot.content with
  | some parameters => .ok parameters
  | none => .error (.of .parametersUnset)

end ParameterSlot

inductive FormOf (N : Type) where
  | quote (v : Value)
  | sequence (body : List N)
  | ifElse (test onTrue : N) (onFalse : List N)
  | cond (clauses : List (N × List N))
  | whenTrue (test : N) (body : List N)
  | whenFalse (test : N) (body : List N)
  | allOf (items : List N)
  | anyOf (items : List N)
  | whileLoop (test : N) (body : List N)
  | foreach (variableName : String) (source : N) (result : Option N) (body : List N)
  | returnWith (value : Option N)
  | throwWith (kind : ErrorKind) (message : N)
  | pipeline (first : N) (steps : List N)
  | letIn (bindings : List (String × Option N)) (body : List N)
  | destructure (names : List String) (restName : Option String) (source : N) (body : List N)
  | assign (discipline : Discipline) (pairs : List (String × N))
  | lambda (parts : LambdaParts N)
  | defun (name : String) (parts : LambdaParts N)
  | functionNamed (name : String)
  | functionOf (node : N)
  | tryCatch (body : List N) (catches : List (CatchClause N)) (finalizer : Option (List N))
  | funcall (callee : N) (arguments : List N)
  | applyList (callee : N) (arguments : List N)

inductive CodeOf (N : Type) where
  | literal (v : Value)
  | readVariable (name : String)
  | form (slot : ParameterSlot (FormOf N))
  | callNamed (site : Nat) (name : String) (arguments : List N)
  | callComputed (site : Nat) (callee : N) (arguments : List N)
  | host (parameters : List N) (action : HostAction)

structure Node where
  code : CodeOf Node
  name : String
  position : Option Position

abbrev Code := CodeOf Node

abbrev BuiltIn := FormOf Node

instance : Inhabited Node := ⟨.literal .nil, "nil", none⟩

namespace LambdaParts

variable {N : Type}

def defaults (spec : LambdaList N) : List N := spec.parameters.filterMap (·.default)

def children (parts : LambdaParts N) : List N := defaults parts.spec ++ parts.body

end LambdaParts

namespace FormOf

variable {N : Type}

/-- The nodes directly inside a form, those of functions that it builds included. -/
def children : FormOf N → List N
  | quote _ => []
  | sequence body => body
  | ifElse test onTrue onFalse => test :: onTrue :: onFalse
  | cond clauses => clauses.flatMap fun clause => clause.1 :: clause.2
  | whenTrue test body => test :: body
  | whenFalse test body => test :: body
  | allOf items => items
  | anyOf items => items
  | whileLoop test body => test :: body
  | foreach _ source result body => source :: result.toList ++ body
  | returnWith value => value.toList
  | throwWith _ message => [message]
  | pipeline first steps => first :: steps
  | letIn bindings body => bindings.filterMap (·.2) ++ body
  | destructure _ _ source body => source :: body
  | assign _ pairs => pairs.map (·.2)
  | lambda parts => parts.children
  | defun _ parts => parts.children
  | functionNamed _ => []
  | functionOf node => [node]
  | tryCatch body catches finalizer =>
      body ++ catches.flatMap (·.body) ++ finalizer.getD []
  | funcall callee arguments => callee :: arguments
  | applyList callee arguments => callee :: arguments

def constant? : FormOf N → Option Value
  | quote v => some v
  | _ => none

end FormOf

namespace CodeOf

variable {N : Type}

def ofForm (form : FormOf N) : CodeOf N := .form ⟨some form⟩

def children : CodeOf N → List N
  | literal _ => []
  | readVariable _ => []
  | form slot => slot.content.elim [] FormOf.children
  | callNamed _ _ arguments => arguments
  | callComputed _ callee arguments => callee :: arguments
  | host parameters _ => parameters

def constant? : CodeOf N → Option Value
  | literal v => some v
  | form slot => slot.content.bind FormOf.constant?
  | _ => none

end CodeOf

namespace Node

def ofValue (v : Value) (position : Option Position) : Node := ⟨.literal v, v.repr, position⟩

def constant? (node : Node) : Option Value := node.code.constant?

def describe (node : Node) : String :=
  match node.position with
  | some position => "#<node " ++ node.name ++ " @" ++ position.display ++ ">"
  | none => "#<node " ++ node.name ++ ">"

end Node

end LispEngine
