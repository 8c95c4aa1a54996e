import LispEngine.Call.Binding
import LispEngine.Call.Primitive
import LispEngine.Compiler.SpecialForm

/-!
# Definitions

The functions of a world, by their identity, and the table that gives names to special forms,
special expressions and functions. Names are kept in the case in which they are compared.
-/

namespace LispEngine

structure Closure where
  name : Option String
  parts : LambdaParts Node
  scope : FrameId

/-- What a native function does with the values of its parameters. A function of the embedding
program also sees the evaluations in progress. -/
inductive NativeCode where
  | primitive (primitive : Primitive)
  | host (run : Backtrace → List Value → HostAction)

structure Native where
  name : String
  spec : LambdaList Node
  doc : Option String
  code : NativeCode

inductive Callable where
  | closure (closure : Closure)
  | native (native : Native)

namespace Callable

def name : Callable → String
  | closure c => c.name.getD "lambda"
  | native n => n.name

def spec : Callable → LambdaList Node
  | closure c => c.parts.spec
  | native n => n.spec

def doc : Callable → Option String
  | closure c => c.parts.doc
  | native n => n.doc

def describe (callable : Callable) : String :=
  "#<function " ++ callable.name ++ " " ++ callable.spec.display ++ ">"

end Callable

/-- A form operator of the embedding program is given its parameters as forms, with its position. -/
inductive FormOperator where
  | special (form : SpecialForm)
  | host (accept : List Form → Position → Except Failure HostAction)

/-- An expression operator of the embedding program is told how many parameters it has. -/
inductive ExpressionOperator where
  | special (expression : SpecialExpression)
  | host (accept : Nat → Position → Except Failure HostAction)

inductive EntryKind where
  | form (operator : FormOperator)
  | expression (operator : ExpressionOperator)
  | function (ref : FunctionRef)

structure Entry where
  kind : EntryKind
  doc : Option String

structure Definitions where
  functions : Array Callable
  table : Bindings Entry

namespace Definitions

def empty : Definitions := ⟨#[], []⟩

def entry? (defs : Definitions) (name : String) : Option Entry :=
  defs.table.find? (Text.canonical name)

def function? (defs : Definitions) (ref : FunctionRef) : Option Callable :=
  defs.functions[ref.id]?

def install (defs : Definitions) (name : String) (entry : Entry) : Definitions :=
  { defs with table := defs.table.insert (Text.canonical name) entry }

def addFunction (defs : Definitions) (callable : Callable) : FunctionRef × Definitions :=
  (⟨defs.functions.size, callable.name⟩,
    { defs with functions := defs.functions.push callable })

def functionSpec? (defs : Definitions) (name : String) : Option (LambdaList Node) :=
  match (defs.entry? name).map Entry.kind with
  | some (.function ref) => (defs.function? ref).map Callable.spec
  | _ => none

def defineFunction (defs : Definitions) (name : String) (ref : FunctionRef) : Definitions :=
  defs.install name ⟨.function ref, (defs.function? ref).bind Callable.doc⟩

def addNative (defs : Definitions) (name : String) (spec : LambdaList Node) (doc : String)
    (code : NativeCode) : Definitions :=
  let native : Native := ⟨Text.canonical name, spec, some doc, code⟩
  let (ref, defs) := defs.addFunction (.native native)
  defs.install name ⟨.function ref, some doc⟩

def addSpecialForm (defs : Definitions) (form : SpecialForm) : Definitions :=
  defs.install form.name ⟨.form (.special form), some form.doc⟩

def addSpecialExpression (defs : Definitions) (expression : SpecialExpression) : Definitions :=
  defs.install expression.name ⟨.expression (.special expression), some expression.doc⟩

def addPrimitive (defs : Definitions) (primitive : Primitive) : Definitions :=
  match (LambdaList.parse primitive.parameters : Except Cause (LambdaList Node)) with
  | .ok spec => defs.addNative primitive.name spec primitive.doc (.primitive primitive)
  | .error _ => defs

def initial : Definitions :=
  let defs := SpecialForm.all.foldl addSpecialForm empty
  let defs := SpecialExpression.all.foldl addSpecialExpression defs
  Primitive.all.foldl addPrimitive defs

def names (defs : Definitions) : List String :=
  defs.table.names.mergeSort fun a b => decide (a ≤ b)

end Definitions

end LispEngine
