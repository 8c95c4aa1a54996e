import LispEngine.Compiler.Clauses
import LispEngine.Compiler.Parameters

/-!
# Compiling special forms

Each function takes the parameters and the position of a form, checks their shape and compiles the
forms inside them.
-/

namespace LispEngine.Special

open Compile

def quote (parameters : List Form) (position : Position) : Compile BuiltIn := do
  expect "QUOTE" parameters position (.exactly 1)
  return .quote ((parameters.map Form.toValue).headD .nil)

def progn (inner : FormCompiler) (parameters : List Form) : Compile BuiltIn := do
  return .sequence (← all inner parameters)

def ifElse (inner : FormCompiler) (parameters : List Form) (position : Position) :
    Compile BuiltIn :=
  match parameters with
  | test :: onTrue :: onFalse => do
      let test ← inner test
      let onTrue ← inner onTrue
      let onFalse ← all inner onFalse
      return .ifElse test onTrue onFalse
  | short => refuse position (.formArity "IF" (.atLeast 2) short.length)

def condClauses (inner : FormCompiler) : List Form → Compile (List (Node × List Node))
  | [] => pure []
  | clause :: clauses =>
      match clause.items? with
      | some (test :: body) => do
          let test ← inner test
          let body ← all inner body
          let rest ← condClauses inner clauses
          return (test, body) :: rest
      | _ => refuse clause.position (.condClause clause.display)

def cond (inner : FormCompiler) (parameters : List Form) : Compile BuiltIn := do
  return .cond (← condClauses inner parameters)

def guarded (inner : FormCompiler) (form : String) (parameters : List Form) (position : Position) :
    Compile (Node × List Node) :=
  match parameters with
  | test :: body => do
      let test ← inner test
      let body ← all inner body
      return (test, body)
  | [] => refuse position (.formArity form (.atLeast 1) 0)

def whenTrue (inner : FormCompiler) (parameters : List Form) (position : Position) :
    Compile BuiltIn := do
  let (test, body) ← guarded inner "WHEN" parameters position
  return .whenTrue test body

def whenFalse (inner : FormCompiler) (parameters : List Form) (position : Position) :
    Compile BuiltIn := do
  let (test, body) ← guarded inner "UNLESS" parameters position
  return .whenFalse test body

def whileLoop (inner : FormCompiler) (parameters : List Form) (position : Position) :
    Compile BuiltIn := do
  let (test, body) ← guarded inner "WHILE" parameters position
  return .whileLoop test body

def allOf (inner : FormCompiler) (parameters : List Form) : Compile BuiltIn := do
  return .allOf (← all inner parameters)

def anyOf (inner : FormCompiler) (parameters : List Form) : Compile BuiltIn := do
  return .anyOf (← all inner parameters)

def foreachHeader? (form : Form) : Option (Form × Form × Option Form) :=
  match form.items? with
  | some [name, source] => some (name, source, none)
  | some [name, source, result] => some (name, source, some result)
  | _ => none

def foreach (inner : FormCompiler) (parameters : List Form) (position : Position) :
    Compile BuiltIn :=
  match parameters with
  | [] => refuse position (.formArity "FOREACH" (.atLeast 1) 0)
  | header :: body =>
      match foreachHeader? header with
      | none => refuse header.position .foreachHeader
      | some (name, source, result) => do
          let name ← symbolName name "FOREACH variable"
          let source ← inner source
          let result ← optional inner result
          let body ← all inner body
          return .foreach name source result body

def returnForm (inner : FormCompiler) (parameters : List Form) (position : Position) :
    Compile BuiltIn := do
  expect "RETURN" parameters position (.between 0 1)
  return .returnWith (← optional inner parameters.head?)

def throwForm (inner : FormCompiler) (parameters : List Form) (position : Position) :
    Compile BuiltIn :=
  match parameters with
  | [message] => do return .throwWith .runtime (← inner message)
  | [kind, message] => do
      let kind ← errorKind kind
      return .throwWith kind (← inner message)
  | other => refuse position (.formArity "THROW" (.between 1 2) other.length)

def pipeSteps (inner : FormCompiler) (defs : Definitions) : List Form → Compile (List Node)
  | [] => pure []
  | step :: steps => do
      let call ← ofExcept (pipeStep defs step)
      let node ← inner call
      let nodes ← pipeSteps inner defs steps
      return node :: nodes

def pipe (inner : FormCompiler) (defs : Definitions) (parameters : List Form)
    (position : Position) : Compile BuiltIn :=
  match parameters with
  | first :: steps => do
      let steps ← pipeSteps inner defs steps
      let first ← inner first
      return .pipeline first steps
  | [] => refuse position (.formArity "->" (.atLeast 1) 0)

def letBinding (inner : FormCompiler) (form : Form) : Compile (String × Option Node) :=
  match form.symbol?, form.items? with
  | some name, _ => pure (name, none)
  | none, some [name] => do return (← symbolName name "LET variable", none)
  | none, some [name, value] => do
      let name ← symbolName name "LET variable"
      return (name, some (← inner value))
  | none, _ => refuse form.position (.letBinding form.display)

def letBindings (inner : FormCompiler) : List Form → Compile (List (String × Option Node))
  | [] => pure []
  | form :: forms => do
      let binding ← letBinding inner form
      let bindings ← letBindings inner forms
      return binding :: bindings

def letForm (inner : FormCompiler) (parameters : List Form) (position : Position) :
    Compile BuiltIn :=
  match parameters with
  | [] => refuse position (.formArity "LET" (.atLeast 1) 0)
  | header :: body =>
      match header.items? with
      | none => refuse header.position .letBindings
      | some forms => do
          let bindings ← letBindings inner forms
          let body ← all inner body
          return .letIn bindings body

/-- The names of a list pattern, and the name for the items after them. -/
def dletPattern : List Form → Compile (List String × Option String)
  | [] => pure ([], none)
  | item :: items => do
      let name ← symbolName item "DLET variable"
      if Text.sameName name "&REST" then
        match items with
        | [last] => return ([], some (← symbolName last "DLET rest variable"))
        | _ => refuse item.position .dletRest
      else
        let (names, rest) ← dletPattern items
        return (name :: names, rest)

def dlet (inner : FormCompiler) (parameters : List Form) (position : Position) : Compile BuiltIn :=
  match parameters with
  | pattern :: source :: body =>
      match pattern.items? with
      | none => refuse pattern.position .dletNames
      | some items => do
          let (names, rest) ← dletPattern items
          let source ← inner source
          let body ← all inner body
          return .destructure names rest source body
  | short => refuse position (.formArity "DLET" (.atLeast 2) short.length)

def assignments (inner : FormCompiler) : List Form → Compile (List (String × Node))
  | name :: value :: rest => do
      let name ← symbolName name "variable"
      let value ← inner value
      let pairs ← assignments inner rest
      return (name, value) :: pairs
  | _ => pure []

def assign (inner : FormCompiler) (form : String) (discipline : Discipline)
    (parameters : List Form) (position : Position) : Compile BuiltIn :=
  if parameters.isEmpty || parameters.length % 2 != 0 then
    refuse position (.assignmentPairs form)
  else do
    return .assign discipline (← assignments inner parameters)

def lambda (inner : FormCompiler) (parameters : List Form) (position : Position) :
    Compile BuiltIn :=
  match parameters with
  | list :: rest => do return .lambda (← lambdaParts inner list rest)
  | [] => refuse position (.formArity "LAMBDA" (.atLeast 1) 0)

def defun (inner : FormCompiler) (parameters : List Form) (position : Position) : Compile BuiltIn :=
  match parameters with
  | name :: list :: rest => do
      let name ← symbolName name "DEFUN name"
      let parts ← lambdaParts inner list rest
      return .defun name parts
  | short => refuse position (.formArity "DEFUN" (.atLeast 2) short.length)

def function (inner : FormCompiler) (parameters : List Form) (position : Position) :
    Compile BuiltIn :=
  match parameters with
  | [form] =>
      match form.symbol? with
      | some name => return .functionNamed name
      | none => do return .functionOf (← inner form)
  | other => refuse position (.formArity "FUNCTION" (.exactly 1) other.length)

def catchClause (inner : FormCompiler) (clause : Form) : Compile (CatchClause Node) :=
  match clause.items? with
  | some (_ :: kind :: name :: body) => do
      let kind ← errorKind kind
      let variableName ← symbolName name "CATCH variable"
      let body ← all inner body
      return { kind, variableName, body }
  | _ => refuse clause.position .catchShape

def catchClauses (inner : FormCompiler) : List Form → Compile (List (CatchClause Node))
  | [] => pure []
  | clause :: clauses => do
      let first ← catchClause inner clause
      let rest ← catchClauses inner clauses
      return first :: rest

def finalizerBody (inner : FormCompiler) : Option Form → Compile (Option (List Node))
  | none => pure none
  | some clause => do return some (← all inner ((clause.items?.getD []).drop 1))

def tryForm (inner : FormCompiler) (parameters : List Form) : Compile BuiltIn := do
  let clauses ← ofExcept (splitClauses parameters)
  let catches ← catchClauses inner clauses.catches
  let finalizer ← finalizerBody inner clauses.finalizer
  let body ← all inner clauses.body
  return .tryCatch body catches finalizer

def compile (inner : FormCompiler) (defs : Definitions) (form : SpecialForm)
    (parameters : List Form) (position : Position) : Compile BuiltIn :=
  match form with
  | .quote => quote parameters position
  | .progn => progn inner parameters
  | .ifElse => ifElse inner parameters position
  | .cond => cond inner parameters
  | .whenTrue => whenTrue inner parameters position
  | .whenFalse => whenFalse inner parameters position
  | .allOf => allOf inner parameters
  | .anyOf => anyOf inner parameters
  | .whileLoop => whileLoop inner parameters position
  | .foreach => foreach inner parameters position
  | .returnForm => returnForm inner parameters position
  | .throwForm => throwForm inner parameters position
  | .pipe => pipe inner defs parameters position
  | .letForm => letForm inner parameters position
  | .dlet => dlet inner parameters position
  | .setq => assign inner "SETQ" .global parameters position
  | .setv => assign inner "SETV" .nearest parameters position
  | .lambda => lambda inner parameters position
  | .defun => defun inner parameters position
  | .function => function inner parameters position
  | .tryForm => tryForm inner parameters

/-- Compiles a special expression, whose parameters are compiled already. -/
def compileExpression (expression : SpecialExpression) (parameters : List Node)
    (position : Position) : Compile BuiltIn :=
  match expression, parameters with
  | .funcall, callee :: arguments => return .funcall callee arguments
  | .funcall, [] => refuse position (.formArity "FUNCALL" (.atLeast 1) 0)
  | .apply, callee :: argument :: arguments => return .applyList callee (argument :: arguments)
  | .apply, short => refuse position (.formArity "APPLY" (.atLeast 2) short.length)

end LispEngine.Special
