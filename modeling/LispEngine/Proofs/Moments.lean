import LispEngine.Proofs.Evaluation

/-!
# The moments of an evaluation

An evaluator that stops at the first moment at which a condition holds of the world. The moments are
those before a node is entered, after it was entered, after its code ended and after it was left,
and the backtrace changes nowhere else. With a condition that never holds it is the evaluator
itself, so what is proved of it for all conditions holds of the outcomes of evaluations and of every
world that they go through.
-/

namespace LispEngine

namespace Eval

def checked {α : Type} (halt : World → Bool) (action : Eval α) : Eval α := fun world =>
  match action world with
  | .ok a after => if halt after then .error .exhausted after else .ok a after
  | .error signal after =>
      if halt after then .error .exhausted after else .error signal after

def visitUntil (halt : World → Bool) (ev : Evaluator) (limit fuel : Nat) (scope : FrameId)
    (node : Node) : Eval Value := do
  checked halt (enter limit ⟨node.name, node.position, scope⟩)
  let outcome ← checked halt (observe (code ev fuel scope node.code))
  checked halt (leave node.position outcome)

def stepUntil (halt : World → Bool) (ev : Evaluator) (limit fuel : Nat) (scope : FrameId)
    (node : Node) : Eval Value := do
  checked halt (pure ())
  visitUntil halt ev limit fuel scope node

mutual

def nodeUntil (halt : World → Bool) (limit : Nat) : Nat → FrameId → Node → Eval Value
  | 0, _, _ => throw .exhausted
  | fuel + 1, scope, node =>
      stepUntil halt ⟨nodeUntil halt limit fuel, callUntil halt limit fuel⟩ limit fuel scope node

def callUntil (halt : World → Bool) (limit : Nat) : Nat → FunctionRef → List Value → Eval Value
  | 0, _, _ => throw .exhausted
  | fuel + 1, ref, arguments =>
      catchReturn
        (callFunction ⟨nodeUntil halt limit fuel, callUntil halt limit fuel⟩ ref arguments)

end

/-- The evaluator that stops at the first moment at which the condition holds. -/
def evaluatorUntil (halt : World → Bool) (limit fuel : Nat) : Evaluator :=
  ⟨nodeUntil halt limit fuel, callUntil halt limit fuel⟩

def never (_ : World) : Bool := false

@[simp] theorem checked_never {α : Type} (action : Eval α) : checked never action = action := by
  funext world
  unfold checked
  cases action world with
  | ok a after => rfl
  | error signal after => rfl

theorem stepUntil_never (ev : Evaluator) (limit fuel : Nat) (scope : FrameId) (node : Node) :
    stepUntil never ev limit fuel scope node = step ev limit fuel scope node := by
  simp only [stepUntil, visitUntil, step, checked_never, pure_bind]

theorem evaluatorUntil_never (limit fuel : Nat) :
    evaluatorUntil never limit fuel = evaluator limit fuel := by
  induction fuel with
  | zero => rfl
  | succ fuel ih =>
      have hinner : (⟨nodeUntil never limit fuel, callUntil never limit fuel⟩ : Evaluator) =
          ⟨nodeWithin limit fuel, callWithin limit fuel⟩ := ih
      unfold evaluatorUntil evaluator
      refine congr (congrArg Evaluator.mk ?_) ?_
      · funext scope node
        rw [nodeUntil, nodeWithin, hinner, stepUntil_never]
      · funext ref arguments
        rw [callUntil, callWithin, hinner]

theorem visitUntil_full {halt : World → Bool} {ev : Evaluator} {limit fuel : Nat}
    {scope : FrameId} {node : Node} {world : World} (hfull : world.trace.isFull limit = true) :
    visitUntil halt ev limit fuel scope node world =
      checked halt (fun now => .error (.failed (depthFailure limit world.trace)) now) world := by
  change EStateM.bind (checked halt (enter limit _)) _ world = _
  unfold EStateM.bind
  cases hhalt : halt world with
  | true => simp [checked, enter, hfull, hhalt]
  | false => simp [checked, enter, hfull, hhalt]

theorem visitUntil_room {halt : World → Bool} {ev : Evaluator} {limit fuel : Nat}
    {scope : FrameId} {node : Node} {world inside : World}
    (hroom : world.trace.isFull limit = false)
    (hinside : inside = world.entered ⟨node.name, node.position, scope⟩) :
    visitUntil halt ev limit fuel scope node world =
      if halt inside then .error .exhausted inside
      else EStateM.bind (checked halt (observe (code ev fuel scope node.code)))
        (fun outcome => checked halt (leave node.position outcome)) inside := by
  have henter : checked halt (enter limit ⟨node.name, node.position, scope⟩) world =
      if halt inside then .error .exhausted inside else .ok () inside := by
    simp [checked, enter, hroom, hinside, World.entered]
  change EStateM.bind (checked halt (enter limit _)) _ world = _
  rw [EStateM.bind, henter]
  cases halt inside with
  | true => rfl
  | false => rfl

end Eval

namespace Backtrace

@[simp] theorem pop_push (trace : Backtrace) (call : Call) : (trace.push call).pop = trace := by
  simp [push, pop]

@[simp] theorem size_push (trace : Backtrace) (call : Call) :
    (trace.push call).size = trace.size + 1 := by
  simp [push, size]

theorem isFull_eq_false {trace : Backtrace} {limit : Nat} :
    trace.isFull limit = false ↔ trace.size < limit := by
  simp [isFull]

theorem isFull_eq_true {trace : Backtrace} {limit : Nat} :
    trace.isFull limit = true ↔ limit ≤ trace.size := by
  simp [isFull]

end Backtrace

namespace Contract.Sound

open Eval

variable {C : Contract} {halt : World → Bool}
  (hhalt : ∀ world, halt world = true → C.world world → C.halted world)
  {ev : Evaluator} {world after : World} {scope : FrameId} {node : Node}

include hhalt in
theorem outcome_checked {α : Type} {E : Failure → Prop} {Q : World → α → Prop} {start : World}
    {action : Eval α} (h : C.Outcome E Q start (action world)) :
    C.Outcome E Q start (checked halt action world) := by
  unfold checked
  cases hrun : action world with
  | ok a after =>
      rw [hrun] at h
      simp only
      split
      · exact hhalt after ‹_› h.1.world
      · exact h
  | error signal after =>
      rw [hrun] at h
      simp only
      split
      · cases signal with
        | failed failure => exact hhalt after ‹_› h.1.world
        | returned v => exact hhalt after ‹_› h.1.world
        | exhausted => exact h
      · exact h

theorem checked_observe_error {α : Type} {action : Eval α} {signal : Signal}
    (h : checked halt (observe action) world = .error signal after) : signal = .exhausted := by
  unfold checked observe at h
  cases hrun : action world with
  | ok a last =>
      simp only [hrun] at h
      split at h
      · cases h; rfl
      · cases h
  | error cause last =>
      cases cause with
      | exhausted =>
          simp only [hrun] at h
          split at h
          · cases h; rfl
          · cases h; rfl
      | failed failure =>
          simp only [hrun] at h
          split at h
          · cases h; rfl
          · cases h
      | returned v =>
          simp only [hrun] at h
          split at h
          · cases h; rfl
          · cases h

theorem code_constant {v : Value} (h : node.constant? = some v) (ev : Evaluator) (fuel : Nat)
    (scope : FrameId) : code ev fuel scope node.code = pure v := by
  unfold Node.constant? at h
  cases hcode : node.code with
  | literal u =>
      rw [hcode] at h
      cases h
      rfl
  | form slot =>
      rw [hcode] at h
      obtain ⟨parameters, hslot, hquote⟩ := Option.bind_eq_some_iff.mp h
      obtain ⟨content⟩ := slot
      obtain rfl : content = some parameters := hslot
      cases parameters with
      | quote u =>
          cases hquote
          rfl
      | _ => cases hquote
  | _ =>
      rw [hcode] at h
      cases h

variable (hC : C.Sound)

include hC

private theorem code_keeps_constant {trace : Backtrace} (hev : C.Evaluates ev trace) (fuel : Nat)
    (h : C.At trace world) (hscope : C.scope world scope) (hnode : C.node node) :
    C.Keeps (fun failure => C.failure trace failure ∧ node.constant? = none) C.Holds world
      (code ev fuel scope node.code) := by
  cases hconstant : node.constant? with
  | none => exact (hC.code_keeps hev fuel h hscope hnode).error fun _ hfailure => ⟨hfailure, rfl⟩
  | some v =>
      rw [code_constant hconstant]
      exact hC.keeps_pure h.world (hC.constant hnode hconstant)

include hhalt

private theorem leave_keeps {ending : Except Signal Value} (hw : C.world world)
    (hroom : world.trace.isFull C.limit = false) (hnode : C.node node)
    (hnext : C.Next (world.entered ⟨node.name, node.position, scope⟩) after)
    (hending : C.Ending (fun failure =>
        C.failure (world.trace.push ⟨node.name, node.position, scope⟩) failure ∧
          node.constant? = none)
      C.Holds after ending) :
    C.Outcome (C.raised world.trace) C.Holds world
      (checked halt (leave node.position ending) after) := by
  have hpop : after.trace.pop = world.trace := by
    rw [hnext.trace]
    exact Backtrace.pop_push world.trace _
  have hleft : C.Next world { after with trace := after.trace.pop } := by
    rw [hpop]
    exact hC.left hw hroom hnext
  refine outcome_checked hhalt ?_
  cases ending with
  | ok v => exact ⟨hleft, hending⟩
  | error signal =>
      cases signal with
      | failed failure =>
          refine ⟨hleft, ?_⟩
          rw [hnext.trace]
          exact hC.annotated scope hw hroom hnode hending.2 hending.1
      | returned v => exact ⟨hleft, hending⟩
      | exhausted => exact hending.elim

private theorem visitUntil_keeps (fuel : Nat) (hw : C.world world) (hscope : C.enter world scope)
    (hnode : C.node node)
    (hev : world.trace.isFull C.limit = false →
      C.Evaluates ev (world.trace.push ⟨node.name, node.position, scope⟩)) :
    C.Keeps (C.raised world.trace) C.Holds world
      (visitUntil halt ev C.limit fuel scope node) := by
  unfold Keeps
  cases hroom : world.trace.isFull C.limit with
  | true =>
      rw [visitUntil_full hroom]
      exact outcome_checked hhalt ⟨hC.next_refl hw, hC.full hw hroom⟩
  | false =>
      rw [visitUntil_room hroom rfl]
      obtain ⟨hentered, hscope'⟩ := hC.entered ⟨node.name, node.position, scope⟩ hw hroom hscope
      split
      · exact hhalt _ ‹_› hentered
      · have hobserved : C.Keeps (C.raised world.trace) _ _ _ :=
          keeps_observe (hC.code_keeps_constant (hev hroom) fuel ⟨hentered, rfl⟩ hscope' hnode)
        have hcode := outcome_checked hhalt hobserved
        unfold EStateM.bind
        cases hrun : checked halt (observe (code ev fuel scope node.code))
            (world.entered ⟨node.name, node.position, scope⟩) with
        | ok ending after =>
            rw [hrun] at hcode
            exact hC.leave_keeps hhalt hw hroom hnode hcode.1 hcode.2
        | error signal after =>
            rw [hrun] at hcode
            obtain rfl := checked_observe_error hrun
            exact hcode

theorem stepUntil_keeps (fuel : Nat) (hw : C.world world) (hscope : C.enter world scope)
    (hnode : C.node node)
    (hev : world.trace.isFull C.limit = false →
      C.Evaluates ev (world.trace.push ⟨node.name, node.position, scope⟩)) :
    C.Keeps (C.raised world.trace) C.Holds world
      (stepUntil halt ev C.limit fuel scope node) := by
  have hstart : C.Keeps (C.raised world.trace) (fun now _ => now = world) world (pure ()) :=
    hC.keeps_pure hw rfl
  refine hC.keeps_bind (outcome_checked hhalt hstart) ?_
  rintro _ after _ rfl
  exact hC.visitUntil_keeps hhalt fuel hw hscope hnode hev

theorem evaluatorUntil_evaluates {fuel : Nat} {trace : Backtrace} (hfuel : C.fuelled fuel trace)
    (hresult : ∀ fuel scope node world v after,
      (evaluatorUntil halt C.limit fuel).node scope node world = .ok v after →
        C.result world scope node v := by intros; trivial) :
    C.Evaluates (evaluatorUntil halt C.limit fuel) trace := by
  -- a node spends one step and adds one call, so the backtrace changes along with the steps
  induction fuel generalizing trace with
  | zero =>
      refine ⟨fun h _ _ => ?_, fun _ _ _ h _ _ => ?_, hresult _ _ _ _ _ _⟩
      · exact hC.spent h.world (h.trace ▸ hfuel)
      · exact hC.spent h.world (h.trace ▸ hfuel)
  | succ fuel ih =>
      refine ⟨?_, ?_, hresult _ _ _ _ _ _⟩
      · rintro world scope node ⟨hw, rfl⟩ hscope hnode
        exact hC.stepUntil_keeps hhalt fuel hw hscope hnode fun hroom => ih (hC.fuel _ hfuel hroom)
      · intro hosted world arguments h hvalues ref
        exact hC.catchReturn_keeps
          (hC.callFunction_keeps (ih (hC.hostFuel hosted hfuel)) h ref hvalues)

end Contract.Sound

end LispEngine
