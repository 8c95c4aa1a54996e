import LispEngine.Eval.Node
import LispEngine.Proofs.Frames

/-!
# Handlers

A handler runs in a frame of its own, in which its variable holds the failure that it handles. Such
a frame has no other name, so that binding the variable always succeeds. A protected evaluation is
its body, then the handlers, and then the finalizer.
-/

namespace LispEngine

/-- A child of a frame in which a name stands for a caught failure. -/
def World.addHandler (world : World) (scope : FrameId) (name : String) (failure : Failure) :
    FrameId × World :=
  (⟨world.frames.size⟩, { world with
    frames := world.frames.push {
      locals := [(name, .error world.errorCount failure)]
      properties := []
      parent := some scope
      call := none
      missing := world.missingPolicy scope }
    errorCount := world.errorCount + 1 })

namespace Eval

theorem handle_none {ev : Evaluator} {scope : FrameId} {catches : List (CatchClause Node)}
    {failure : Failure} (h : catches.find? (fun clause => failure.kind.isA clause.kind) = none)
    (world : World) :
    handle ev scope catches failure world = .error (.failed failure) world := by
  unfold handle
  rw [h]
  rfl

theorem handle_some {ev : Evaluator} {scope : FrameId} {catches : List (CatchClause Node)}
    {failure : Failure} {clause : CatchClause Node}
    (h : catches.find? (fun clause => failure.kind.isA clause.kind) = some clause)
    (world : World) :
    handle ev scope catches failure world =
      body ev (world.addHandler scope clause.variableName failure).1 .nil clause.body
        (world.addHandler scope clause.variableName failure).2 := by
  unfold handle
  rw [h]
  have hfree : ((world.addChild scope).2.addError failure).2.bindsLocally clause.variableName
      ⟨world.frames.size⟩ = false := by
    simp [World.bindsLocally, World.frame?, World.addError, World.addChild, World.addFrame,
      Frame.root, Frame.binds, Bindings.has, Bindings.find?]
  have hbound : ((world.addChild scope).2.addError failure).2.setLocal ⟨world.frames.size⟩
      clause.variableName (.error world.errorCount failure) =
        (world.addHandler scope clause.variableName failure).2 := by
    exact congrArg (fun w : World => { w with errorCount := world.errorCount + 1 })
      (World.modifyFrame_addFrame world
        { Frame.root (world.missingPolicy scope) with parent := some scope }
        (·.set clause.variableName (.error world.errorCount failure)))
  have hdefine : define ⟨world.frames.size⟩ clause.variableName (.error world.errorCount failure)
      ((world.addChild scope).2.addError failure).2 =
        .ok () (world.addHandler scope clause.variableName failure).2 := by
    simp only [define, World.define, hfree, hbound]
    rfl
  change EStateM.bind (define ⟨world.frames.size⟩ clause.variableName _) _
    ((world.addChild scope).2.addError failure).2 = _
  simp only [EStateM.bind]
  rw [hdefine]
  rfl

def recover (ev : Evaluator) (scope : FrameId) (catches : List (CatchClause Node)) :
    Except Signal Value → Eval Value
  | .error (.failed failure) => handle ev scope catches failure
  | observed => resume observed

def finish (ev : Evaluator) (scope : FrameId) (finalizer : Option (List Node))
    (observed : Except Signal Value) : Eval Value :=
  match finalizer with
  | some cleanup => do
      let _ ← body ev scope .nil cleanup
      resume observed
  | none => resume observed

theorem tryCatch_eq (ev : Evaluator) (scope : FrameId) (nodes : List Node)
    (catches : List (CatchClause Node)) (finalizer : Option (List Node)) :
    tryCatch ev scope nodes catches finalizer =
      observe (observe (body ev scope .nil nodes) >>= recover ev scope catches) >>=
        finish ev scope finalizer := by
  cases finalizer with
  | none => rfl
  | some cleanup => rfl

end Eval

end LispEngine
