import LispEngine.Proofs.Session

/-!
# Contracts about deferred arguments and the backtrace

Few operations of an evaluation touch the deferred arguments or the backtrace. A contract that looks
at nothing else need only be checked for those.
-/

namespace LispEngine

/-- Nothing but the world is looked at, and what nodes give in it. The embedding program takes part,
and evaluations may be cut off anywhere. -/
def Contract.ambient (limit : Nat) (invariant : World → Prop) (change : World → World → Prop)
    (result : World → FrameId → Node → Value → Prop := fun _ _ _ _ => True) : Contract where
  limit := limit
  world := invariant
  change := change
  scope _ _ := True
  own _ _ := True
  enter _ _ := True
  value _ := True
  node _ := True
  failure _ _ := True
  raised _ _ := True
  hosted := True
  halted := invariant
  fuelled _ _ := True
  result := result

/-- An invariant and a relation between worlds that only depend on the deferred arguments and the
backtrace, and that the operations on these keep to. -/
structure Ambient (limit : Nat) (invariant : World → Prop) (change : World → World → Prop)
    (result : World → FrameId → Node → Value → Prop := fun _ _ _ _ => True) : Prop where
  refl (world : World) : change world world
  trans {u v w : World} : change u v → change v w → change u w
  elsewhere {world after : World} : invariant world → after.thunks = world.thunks →
    after.trace = world.trace → invariant after ∧ change world after
  addThunk {world : World} (node : Node) (scope : FrameId) : invariant world →
    invariant (world.addThunk node scope).2 ∧ change world (world.addThunk node scope).2
  mark {world : World} {id : ThunkId} {node : Node} {scope : FrameId} : invariant world →
    world.thunks[id.index]? = some (.pending node scope) → invariant (world.setThunk id .forcing)
  unmark {world after : World} {id : ThunkId} {node : Node} {scope : FrameId} {thunk : Thunk} :
    invariant world → world.thunks[id.index]? = some (.pending node scope) → invariant after →
      change (world.setThunk id .forcing) after →
        (thunk = .pending node scope ∨
          ∃ v, thunk = .done v ∧ result (world.setThunk id .forcing) scope node v) →
          invariant (after.setThunk id thunk) ∧ change world (after.setThunk id thunk)
  entered {world : World} (call : Call) : invariant world → world.trace.isFull limit = false →
    invariant (world.entered call)
  left {world after : World} {call : Call} : invariant world → invariant after →
    change (world.entered call) after → invariant (after.back world) ∧
      change world (after.back world)

namespace Ambient

variable {limit : Nat} {invariant : World → Prop} {change : World → World → Prop}
  {result : World → FrameId → Node → Value → Prop}

theorem function (world : World) (callable : Callable) :
    (Contract.ambient limit invariant change result).Function world callable :=
  Contract.function_of_nodes (fun _ _ => trivial) (fun _ _ => trivial) trivial (fun _ => trivial)
    fun _ _ => trivial

theorem bound (arguments : BoundArguments) : arguments.All fun _ => True :=
  ⟨fun _ _ => trivial, fun _ _ _ _ => trivial⟩

theorem meets (world : World) (routine : Routine) :
    routine.Meets (Contract.ambient limit invariant change result) world := by
  cases routine with
  | evaluate scope node => exact ⟨trivial, trivial⟩
  | invoke caller callable arguments =>
      exact ⟨trivial, function world callable, bound arguments, trivial⟩
  | call callee arguments => exact fun _ _ => trivial
  | frame caller defining arguments =>
      exact ⟨trivial, trivial, bound arguments, trivial⟩
  | values caller bounds => exact ⟨trivial, fun _ _ _ _ => trivial⟩
  | force thunk => trivial

section

variable (h : Ambient limit invariant change result)

include h

theorem next {world after : World} (hw : invariant world) (hthunks : after.thunks = world.thunks)
    (htrace : after.trace = world.trace) :
    (Contract.ambient limit invariant change result).Next world after :=
  ⟨(h.elsewhere hw hthunks htrace).1, htrace, (h.elsewhere hw hthunks htrace).2⟩

theorem sound : (Contract.ambient limit invariant change result).Sound where
  refl := h.refl
  trans := h.trans
  addChild hw _ := ⟨h.next hw rfl rfl, trivial⟩
  addCallFrame _ hw _ _ := ⟨h.next hw rfl rfl, trivial⟩
  addHandler _ _ hw _ _ := ⟨h.next hw rfl rfl, trivial⟩
  setLocal _ _ hw _ _ := h.next hw rfl rfl
  fillSlot _ _ _ hw _ _ := h.next hw rfl rfl
  update := by
    intro world id node discipline pairs name v _ _ hw _ _
    cases discipline with
    | global => exact h.next hw rfl rfl
    | nearest => exact h.next hw rfl rfl
  addThunk := by
    intro world node scope hw _ _
    obtain ⟨hadded, hchange⟩ := h.addThunk node scope hw
    exact ⟨hadded, rfl, hchange⟩
  pending hw hpending := ⟨trivial, h.mark hw hpending, trivial⟩
  settle := by
    intro world after id node scope v hw hpending hnext _ hresult
    obtain ⟨hsettled, hchange⟩ :=
      h.unmark hw hpending hnext.world hnext.change (.inr ⟨v, rfl, hresult⟩)
    exact ⟨hsettled, hnext.trace, hchange⟩
  restore := by
    intro world after id node scope hw hpending hnext
    obtain ⟨hrestored, hchange⟩ := h.unmark hw hpending hnext.world hnext.change (.inl rfl)
    exact ⟨hrestored, hnext.trace, hchange⟩
  close _ _ hw _ _ _ := h.next hw rfl rfl
  defineFunction _ _ _ hw := h.next hw rfl rfl
  function _ _ := function _ _
  cached _ _ := ⟨fun _ _ => trivial, fun _ _ _ _ => trivial⟩
  remember _ _ hw _ _ := h.next hw rfl rfl
  entered call hw hroom _ := ⟨h.entered call hw hroom, trivial⟩
  left := by
    intro world after call hw _ hnext
    obtain ⟨hleft, hchange⟩ := h.left hw hnext.world hnext.change
    exact ⟨hleft, rfl, hchange⟩

end

variable (h : Ambient limit invariant change)

include h

theorem evaluates (halt : World → Bool) (fuel : Nat) (trace : Backtrace) :
    (Contract.ambient limit invariant change).Evaluates
      (Eval.evaluatorUntil halt limit fuel) trace :=
  h.sound.evaluatorUntil_evaluates (fun _ _ hnow => hnow) trivial

theorem routine_keeps (halt : World → Bool) (fuel : Nat) {world : World} (hw : invariant world)
    (routine : Routine) :
    (Contract.ambient limit invariant change).Keeps (fun _ => True) (fun _ _ => True) world
      (routine.run (Eval.evaluatorUntil halt limit fuel)) :=
  h.sound.routine_keeps (h.evaluates halt fuel world.trace) hw (meets world routine)

theorem node_keeps (halt : World → Bool) (fuel : Nat) {world : World} (hw : invariant world)
    (scope : FrameId) (node : Node) :
    (Contract.ambient limit invariant change).Keeps (fun _ => True) (fun _ _ => True) world
      ((Eval.evaluatorUntil halt limit fuel).node scope node) :=
  (h.evaluates halt fuel world.trace).node ⟨hw, rfl⟩ trivial trivial

end Ambient

end LispEngine
