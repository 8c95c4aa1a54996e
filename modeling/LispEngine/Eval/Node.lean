import LispEngine.Eval.Code

/-!
# Evaluating nodes

A node is evaluated inside its own entry of the backtrace. A failure that leaves the node takes its
position and the backtrace with it, unless it has them already. The depth of the backtrace is
limited, and the evaluator is given a number of steps that bounds how deep evaluations nest and how
often loops repeat.
-/

namespace LispEngine.Eval

def depthFailure (limit : Nat) (trace : Backtrace) : Failure :=
  (FailureOf.of (.depthExceeded limit)).withTrace trace

def enter (limit : Nat) (call : Call) : Eval Unit := fun world =>
  if world.trace.isFull limit then .error (.failed (depthFailure limit world.trace)) world
  else .ok () { world with trace := world.trace.push call }

def leave (position : Option Position) (outcome : Except Signal Value) : Eval Value :=
  fun world =>
    match outcome with
    | .ok v => .ok v { world with trace := world.trace.pop }
    | .error signal =>
        .error (signal.annotate position world.trace) { world with trace := world.trace.pop }

def step (ev : Evaluator) (limit fuel : Nat) (scope : FrameId) (node : Node) : Eval Value := do
  enter limit ⟨node.name, node.position, scope⟩
  let outcome ← observe (code ev fuel scope node.code)
  leave node.position outcome

mutual

def nodeWithin (limit : Nat) : Nat → FrameId → Node → Eval Value
  | 0, _, _ => throw .exhausted
  | fuel + 1, scope, node =>
      step ⟨nodeWithin limit fuel, callWithin limit fuel⟩ limit fuel scope node

/-- Carries out a call of the embedding program. A return that no function call ends is its
value. -/
def callWithin (limit : Nat) : Nat → FunctionRef → List Value → Eval Value
  | 0, _, _ => throw .exhausted
  | fuel + 1, ref, arguments =>
      catchReturn (callFunction ⟨nodeWithin limit fuel, callWithin limit fuel⟩ ref arguments)

end

def evaluator (limit fuel : Nat) : Evaluator := ⟨nodeWithin limit fuel, callWithin limit fuel⟩

end LispEngine.Eval
