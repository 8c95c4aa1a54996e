import LispEngine.Eval.Basic

/-!
# Calls

A call resolves its function, binds the argument expressions of its site, and runs the function: the
body of a closure in a new frame inside the frame in which the closure was built, or a native
function on the values of its arguments.
-/

namespace LispEngine.Eval

def functionOf : Value → Eval FunctionRef
  | .function ref => pure ref
  | v => fail (.mismatch "function" v)

/-- The function that a name stands for: the one in the table, or else the value of the variable. -/
def resolveFunction (ev : Evaluator) (scope : FrameId) (name : String) : Eval FunctionRef := do
  let world ← get
  match (world.defs.entry? name).map Entry.kind with
  | some (.function ref) => return ref
  | some (.form _) | some (.expression _) => fail (.registeredLate name)
  | none =>
      if world.contains scope name then
        functionOf (← readVariable ev scope name)
      else fail (.undefinedFunction name)

/-- The function behind a handle. A handle that no function of this world has counts as
undefined. -/
def callableOf (ref : FunctionRef) : Eval Callable := do
  match (← get).defs.function? ref with
  | some callable => return callable
  | none => fail (.undefinedFunction ref.name)

/-- Binds the arguments of a call site, unless it remembers them from its last call of the same
function. -/
def bindSite (site : Nat) (arguments : List Node) (ref : FunctionRef) (spec : LambdaList Node) :
    Eval BoundArguments := do
  let bindNew : Eval BoundArguments := do
    let bound ← ofExcept (bindArguments spec arguments)
    modify fun world => world.remember site ⟨ref.id, bound⟩
    return bound
  match (← get).cached? site with
  | some call => if call.callee = ref.id then return call.arguments else bindNew
  | none => bindNew

def argumentValue (ev : Evaluator) (caller : FrameId) : Bound → Eval Value
  | .missing => pure .nil
  | .single node => ev.node caller node
  | .rest nodes => do return .list (← values ev caller nodes)

def argumentValues (ev : Evaluator) (caller : FrameId) : List Bound → Eval (List Value)
  | [] => pure []
  | bound :: rest => do
      let v ← argumentValue ev caller bound
      let vs ← argumentValues ev caller rest
      return v :: vs

def defaultValue (ev : Evaluator) (frame : FrameId) (p : Parameter Node) : Eval Value :=
  match p.default with
  | some node => ev.node frame node
  | none => pure (if p.role == .rest then .list [] else .nil)

/-- The slot of a parameter, and whether the call site supplies it. Supplied expressions belong to
the caller's frame, and defaults to the new one. -/
def parameterSlot (ev : Evaluator) (caller frame : FrameId) (p : Parameter Node) (bound : Bound) :
    Eval (Slot × Bool) :=
  match bound with
  | .missing => do return (.ready (← defaultValue ev frame p), false)
  | .single node =>
      if p.isLazy then do
        let id ← modifyGet fun world => world.addThunk node caller
        return (.deferred id, true)
      else do return (.ready (← ev.node caller node), true)
  | .rest nodes => do return (.ready (.list (← values ev caller nodes)), !nodes.isEmpty)

def fillSlots (ev : Evaluator) (caller frame : FrameId) :
    Nat → List (Parameter Node) → List Bound → Eval Unit
  | index, p :: ps, bound :: rest => do
      let (slot, supplied) ← parameterSlot ev caller frame p bound
      modify fun world => world.modifyFrame frame (·.fillSlot index slot supplied)
      fillSlots ev caller frame (index + 1) ps rest
  | _, _, _ => pure ()

def callFrame (ev : Evaluator) (caller defining : FrameId) (arguments : BoundArguments) :
    Eval FrameId := do
  let frame ← modifyGet fun world => world.addCallFrame defining arguments.spec
  fillSlots ev caller frame 0 arguments.spec.parameters arguments.bound
  return frame

def runHost (ev : Evaluator) (scope : FrameId) (parameters : List Node) : HostAction → Eval Value
  | .yield v => pure v
  | .fail failure => throw (.failed failure)
  | .leave v => throw (.returned v)
  | .call callee arguments next => do
      let v ← ev.call callee arguments
      runHost ev scope parameters (next v)
  | .evaluate index next =>
      match parameters[index]? with
      | none => fail (.argumentMissing (toString index))
      | some node => do
          let v ← ev.node scope node
          runHost ev scope parameters (next v)

def runNative (ev : Evaluator) (caller : FrameId) (code : NativeCode) (arguments : List Value) :
    Eval Value :=
  match code with
  | .primitive primitive => ofExcept (primitive.run arguments)
  | .host run => do runHost ev caller [] (run (← get).trace arguments)

/-- Runs a function on bound arguments. A return in the body of a closure ends here. -/
def invoke (ev : Evaluator) (caller : FrameId) (callable : Callable) (arguments : BoundArguments) :
    Eval Value :=
  match callable with
  | .closure closure => do
      let frame ← callFrame ev caller closure.scope arguments
      catchReturn (body ev frame .nil closure.parts.body)
  | .native native => do
      let vs ← argumentValues ev caller arguments.bound
      runNative ev caller native.code vs

def callFunction (ev : Evaluator) (ref : FunctionRef) (arguments : List Value) : Eval Value := do
  let callable ← callableOf ref
  let bound ← ofExcept (bindArguments callable.spec (arguments.map (Node.ofValue · none)))
  invoke ev World.root callable bound

def callSite (ev : Evaluator) (scope : FrameId) (site : Nat) (arguments : List Node)
    (ref : FunctionRef) : Eval Value := do
  let callable ← callableOf ref
  let bound ← bindSite site arguments ref callable.spec
  invoke ev scope callable bound

end LispEngine.Eval
