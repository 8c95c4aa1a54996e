import LispEngine.Compiler.Basic

/-!
# Compiling lambda lists

The elements of a lambda list are symbols, or lists of a name, a default form and a name for the
record of the supply. Default forms are compiled where they stand.
-/

namespace LispEngine

open Compile

def declaredName? (items : List Form) : Option String :=
  match items with
  | [head] | [head, _] | [head, _, _] =>
      head.symbol?.filter fun name => !LambdaToken.isMarkerText name
  | _ => none

def flagName : Option Form → Compile (Option String)
  | none => pure none
  | some form =>
      match form.symbol? with
      | some name => pure (some name)
      | none => refuse form.position .declarationShape

def parameterToken (inner : FormCompiler) (form : Form) : Compile (LambdaToken Node) :=
  match form.symbol?, form.items? with
  | some name, _ => pure (.ofText name)
  | none, none => refuse form.position (.invalidDeclaration form.display)
  | none, some items =>
      match declaredName? items with
      | none => refuse form.position .declarationShape
      | some name => do
          let default ← optional inner items[1]?
          let flag ← flagName items[2]?
          return .compound name default flag

def ofReader {α : Type} (position : Position) : Except Cause α → Compile α
  | .ok a => pure a
  | .error cause => refuse position cause

def readParameters (inner : FormCompiler) :
    LambdaReader Node → List Form → Compile (LambdaReader Node)
  | reader, [] => pure reader
  | reader, form :: forms => do
      let token ← parameterToken inner form
      let next ← ofReader form.position (reader.take token)
      readParameters inner next forms

def lambdaList (inner : FormCompiler) (forms : List Form) : Compile (LambdaList Node) := do
  let reader ← readParameters inner .start forms
  let position := (forms.getLast?.map Form.position).getD .start
  ofReader position reader.finish

/-- A documentation text stands before a body that is not empty. -/
def splitDoc : List Form → Option String × List Form
  | .leaf (.string doc) _ _ :: next :: more => (some doc, next :: more)
  | body => (none, body)

def lambdaParts (inner : FormCompiler) (parameters : Form) (rest : List Form) :
    Compile (LambdaParts Node) :=
  match parameters.items? with
  | none => refuse parameters.position (.lambdaListShape parameters.display)
  | some items => do
      let spec ← lambdaList inner items
      let (doc, body) := splitDoc rest
      let nodes ← all inner body
      return { spec, doc, body := nodes }

end LispEngine
