import LispEngine.World.Scope

/-!
# Evaluations

An evaluation changes the world and ends with a value or a signal; what it changed before a signal
stays changed. The evaluator of inner nodes, and the one of calls that the embedding program makes,
are parameters of the functions that evaluate code.
-/

namespace LispEngine

abbrev Eval := EStateM Signal World

structure Evaluator where
  node : FrameId → Node → Eval Value
  call : FunctionRef → List Value → Eval Value

namespace Eval

def fail {α : Type} (cause : Cause) : Eval α := throw (.failed (.of cause))

def ofExcept {α : Type} : Except Cause α → Eval α
  | .ok a => pure a
  | .error cause => fail cause

def ofFailure {α : Type} : Except Failure α → Eval α
  | .ok a => pure a
  | .error failure => throw (.failed failure)

/-- How an evaluation ends, as a value. One whose steps are used up has not ended, so nothing comes
after it. -/
def observe {α : Type} (action : Eval α) : Eval (Except Signal α) := fun world =>
  match action world with
  | .ok a world => .ok (.ok a) world
  | .error .exhausted world => .error .exhausted world
  | .error signal world => .ok (.error signal) world

def resume {α : Type} : Except Signal α → Eval α
  | .ok a => pure a
  | .error signal => throw signal

def catchReturn (action : Eval Value) : Eval Value := do
  match ← observe action with
  | .error (.returned v) => return v
  | outcome => resume outcome

def body (ev : Evaluator) (scope : FrameId) : Value → List Node → Eval Value
  | last, [] => pure last
  | _, node :: nodes => do
      let v ← ev.node scope node
      body ev scope v nodes

def values (ev : Evaluator) (scope : FrameId) : List Node → Eval (List Value)
  | [] => pure []
  | node :: nodes => do
      let v ← ev.node scope node
      let vs ← values ev scope nodes
      return v :: vs

/-! ## Frames -/

def addChild (parent : FrameId) : Eval FrameId := modifyGet fun world => world.addChild parent

def setLocal (scope : FrameId) (name : String) (v : Value) : Eval Unit :=
  modify fun world => world.setLocal scope name v

def define (scope : FrameId) (name : String) (v : Value) : Eval Unit := fun world =>
  match world.define scope name v with
  | .ok world => .ok () world
  | .error cause => .error (.failed (.of cause)) world

/-! ## Deferred arguments -/

/-- The value of a deferred argument. It is evaluated by the first reading that succeeds. -/
def force (ev : Evaluator) (id : ThunkId) : Eval Value := do
  match (← get).thunks[id.index]? with
  | some (.done v) => return v
  | some (.pending node scope) =>
      modify fun world => world.setThunk id .forcing
      match ← observe (ev.node scope node) with
      | .ok v =>
          modify fun world => world.setThunk id (.done v)
          return v
      | .error signal =>
          modify fun world => world.setThunk id (.pending node scope)
          throw signal
  | some .forcing | none => fail .selfReference

def readVariable (ev : Evaluator) (scope : FrameId) (name : String) : Eval Value := do
  let world ← get
  match world.find? scope name with
  | some (.value v) => return v
  | some (.thunk id) => force ev id
  | none =>
      match world.missingPolicy scope with
      | .nil => return .nil
      | .raise => fail (.unbound name)

end Eval

end LispEngine
