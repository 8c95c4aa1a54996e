import LispEngine.Compiler.Basic
import LispEngine.Eval.Call

/-!
# Evaluating code

One function for each sort of code, with the evaluator of inner nodes as a parameter.
-/

namespace LispEngine.Eval

def ifElse (ev : Evaluator) (scope : FrameId) (test onTrue : Node) (onFalse : List Node) :
    Eval Value := do
  let v ← ev.node scope test
  if v.isTruthy then ev.node scope onTrue else body ev scope .nil onFalse

/-- Runs the body of the first clause whose test is true. A clause without body gives the value of
its test. -/
def cond (ev : Evaluator) (scope : FrameId) : List (Node × List Node) → Eval Value
  | [] => pure .nil
  | (test, nodes) :: clauses => do
      let v ← ev.node scope test
      if v.isTruthy then
        if nodes.isEmpty then return v else body ev scope .nil nodes
      else cond ev scope clauses

def allOf (ev : Evaluator) (scope : FrameId) : Value → List Node → Eval Value
  | last, [] => pure last
  | _, node :: nodes => do
      let v ← ev.node scope node
      if v.isTruthy then allOf ev scope v nodes else return v

def anyOf (ev : Evaluator) (scope : FrameId) : List Node → Eval Value
  | [] => pure .nil
  | node :: nodes => do
      let v ← ev.node scope node
      if v.isTruthy then return v else anyOf ev scope nodes

def whileLoop (ev : Evaluator) (scope : FrameId) (test : Node) (nodes : List Node) :
    Nat → Value → Eval Value
  | 0, _ => throw .exhausted
  | fuel + 1, last => do
      let v ← ev.node scope test
      if v.isTruthy then
        let v ← body ev scope .nil nodes
        whileLoop ev scope test nodes fuel v
      else return last

def elements : Value → Eval (List Value)
  | .nil => pure []
  | .list items => pure items
  | .string text => pure (text.toList.map Value.char)
  | .map entries => pure (entries.map (·.2))
  | .object _ _ (some elements) => pure elements.toList
  | v => fail (.mismatch "sequence" v)

def eachElement (ev : Evaluator) (scope : FrameId) (name : String) (nodes : List Node) :
    List Value → Eval Unit
  | [] => pure ()
  | v :: vs => do
      setLocal scope name v
      let _ ← body ev scope .nil nodes
      eachElement ev scope name nodes vs

/-- Runs the body for each element, in one new frame, in which the variable is `nil` before and
after the loop. -/
def foreach (ev : Evaluator) (scope : FrameId) (name : String) (source : Node)
    (result : Option Node) (nodes : List Node) : Eval Value := do
  let v ← ev.node scope source
  let inner ← addChild scope
  setLocal inner name .nil
  let items ← elements v
  eachElement ev inner name nodes items
  setLocal inner name .nil
  match result with
  | some node => ev.node inner node
  | none => return .nil

def returnWith (ev : Evaluator) (scope : FrameId) : Option Node → Eval Value
  | none => throw (.returned .nil)
  | some node => do
      let v ← ev.node scope node
      throw (.returned v)

/-- Throws a text as the message of a failure, a caught failure as it was, and any other value with
its text as message and the value as payload. -/
def throwValue (kind : ErrorKind) : Value → Signal
  | .string message => .failed (.of (.thrown kind message none))
  | .error _ failure => .failed failure
  | v => .failed (.of (.thrown kind v.display (some v)))

def throwWith (ev : Evaluator) (scope : FrameId) (kind : ErrorKind) (message : Node) :
    Eval Value := do
  let v ← ev.node scope message
  throw (throwValue kind v)

def pipeline (ev : Evaluator) (scope : FrameId) (variableName : String) :
    Value → List Node → Eval Value
  | v, [] => pure v
  | v, step :: steps => do
      let inner ← addChild scope
      setLocal inner variableName v
      let next ← ev.node inner step
      pipeline ev scope variableName next steps

def defineAll (ev : Evaluator) (scope : FrameId) : List (String × Option Node) → Eval Unit
  | [] => pure ()
  | (name, node) :: bindings => do
      let v ←
        match node with
        | some node => ev.node scope node
        | none => pure .nil
      define scope name v
      defineAll ev scope bindings

def letIn (ev : Evaluator) (scope : FrameId) (bindings : List (String × Option Node))
    (nodes : List Node) : Eval Value := do
  let inner ← addChild scope
  defineAll ev inner bindings
  body ev inner .nil nodes

def defineItems (scope : FrameId) : List String → List Value → Eval (List Value)
  | [], items => pure items
  | name :: names, items => do
      define scope name (items.headD .nil)
      defineItems scope names (items.drop 1)

def listItems : Value → Eval (List Value)
  | .nil => pure []
  | .list items => pure items
  | v => fail (.mismatch "list" v)

def destructure (ev : Evaluator) (scope : FrameId) (names : List String) (restName : Option String)
    (source : Node) (nodes : List Node) : Eval Value := do
  let items ← listItems (← ev.node scope source)
  let inner ← addChild scope
  let left ← defineItems inner names items
  match restName with
  | some name => define inner name (.list left)
  | none => pure ()
  body ev inner .nil nodes

def assign (ev : Evaluator) (scope : FrameId) (discipline : Discipline) :
    Value → List (String × Node) → Eval Value
  | last, [] => pure last
  | _, (name, node) :: pairs => do
      let v ← ev.node scope node
      modify fun world => world.update discipline scope name v
      assign ev scope discipline v pairs

def close (scope : FrameId) (name : Option String) (parts : LambdaParts Node) :
    Eval FunctionRef :=
  modifyGet fun world =>
    let (ref, defs) := world.defs.addFunction (.closure { name, parts, scope })
    (ref, { world with defs })

def defun (scope : FrameId) (name : String) (parts : LambdaParts Node) : Eval Value := do
  let ref ← close scope (some name) parts
  modify fun world => { world with defs := world.defs.defineFunction name ref }
  return .function ref

def handle (ev : Evaluator) (scope : FrameId) (catches : List (CatchClause Node))
    (failure : Failure) : Eval Value :=
  match catches.find? fun clause => failure.kind.isA clause.kind with
  | none => throw (.failed failure)
  | some clause => do
      let inner ← addChild scope
      let v ← modifyGet fun world => world.addError failure
      define inner clause.variableName v
      body ev inner .nil clause.body

/-- Evaluates protected nodes. Failures go to the clauses, and the finalizer runs in any case. -/
def tryCatch (ev : Evaluator) (scope : FrameId) (nodes : List Node)
    (catches : List (CatchClause Node)) (finalizer : Option (List Node)) : Eval Value := do
  let outcome ← observe do
    match ← observe (body ev scope .nil nodes) with
    | .error (.failed failure) => handle ev scope catches failure
    | outcome => resume outcome
  match finalizer with
  | some cleanup =>
      let _ ← body ev scope .nil cleanup
      resume outcome
  | none => resume outcome

def funcall (ev : Evaluator) (scope : FrameId) (callee : Node) (arguments : List Node) :
    Eval Value := do
  let ref ← functionOf (← ev.node scope callee)
  let vs ← values ev scope arguments
  callFunction ev ref vs

def spreadArguments : List Value → Eval (List Value)
  | [] => fail .listMissing
  | [.list items] => pure items
  | [.nil] => pure []
  | [v] => fail (.mismatch "list" v)
  | v :: vs => do return v :: (← spreadArguments vs)

def applyList (ev : Evaluator) (scope : FrameId) (callee : Node) (arguments : List Node) :
    Eval Value := do
  let ref ← functionOf (← ev.node scope callee)
  let vs ← spreadArguments (← values ev scope arguments)
  callFunction ev ref vs

def form (ev : Evaluator) (fuel : Nat) (scope : FrameId) : BuiltIn → Eval Value
  | .quote v => pure v
  | .sequence nodes => body ev scope .nil nodes
  | .ifElse test onTrue onFalse => ifElse ev scope test onTrue onFalse
  | .cond clauses => cond ev scope clauses
  | .whenTrue test nodes => do
      let v ← ev.node scope test
      if v.isTruthy then body ev scope .nil nodes else return .nil
  | .whenFalse test nodes => do
      let v ← ev.node scope test
      if v.isTruthy then return .nil else body ev scope .nil nodes
  | .allOf items => allOf ev scope (.bool true) items
  | .anyOf items => anyOf ev scope items
  | .whileLoop test nodes => whileLoop ev scope test nodes fuel .nil
  | .foreach name source result nodes => foreach ev scope name source result nodes
  | .returnWith value => returnWith ev scope value
  | .throwWith kind message => throwWith ev scope kind message
  | .pipeline first steps => do
      let v ← ev.node scope first
      pipeline ev scope pipeVariable v steps
  | .letIn bindings nodes => letIn ev scope bindings nodes
  | .destructure names restName source nodes => destructure ev scope names restName source nodes
  | .assign discipline pairs => assign ev scope discipline .nil pairs
  | .lambda parts => do return .function (← close scope none parts)
  | .defun name parts => defun scope name parts
  | .functionNamed name => do return .function (← resolveFunction ev scope name)
  | .functionOf node => do return .function (← functionOf (← ev.node scope node))
  | .tryCatch nodes catches finalizer => tryCatch ev scope nodes catches finalizer
  | .funcall callee arguments => funcall ev scope callee arguments
  | .applyList callee arguments => applyList ev scope callee arguments

def code (ev : Evaluator) (fuel : Nat) (scope : FrameId) : Code → Eval Value
  | .literal v => pure v
  | .readVariable name => readVariable ev scope name
  | .form slot => do
      let parameters ← ofFailure slot.get
      form ev fuel scope parameters
  | .callNamed site name arguments => do
      let ref ← resolveFunction ev scope name
      callSite ev scope site arguments ref
  | .callComputed site callee arguments => do
      let ref ← functionOf (← ev.node scope callee)
      callSite ev scope site arguments ref
  | .host parameters action => runHost ev scope parameters action

@[simp] theorem code_ofForm (ev : Evaluator) (fuel : Nat) (scope : FrameId)
    (parameters : BuiltIn) :
    code ev fuel scope (.ofForm parameters) = form ev fuel scope parameters := rfl

end LispEngine.Eval
