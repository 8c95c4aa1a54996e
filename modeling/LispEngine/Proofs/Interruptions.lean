import LispEngine.Proofs.Deferral
import LispEngine.Proofs.Fuel

/-!
# Interrupted evaluations

An evaluator that refuses some of the nodes it is asked for does what the full one does, up to the
first node that it refuses, and is cut off in the world in which it was asked for that node. So the
worlds in which a run asks for a node are those in which an evaluator that refuses the node cuts the
run off. In one of them a deferred argument has got its value.
-/

namespace LispEngine

namespace Eval

variable {α : Type}

def unlessRefused (refuse : World → Bool) (action : Eval α) : Eval α := fun world =>
  if refuse world then .error .exhausted world else action world

mutual

def nodeUnless (refuse : FrameId → Node → World → Bool) (limit : Nat) :
    Nat → FrameId → Node → Eval Value
  | 0, _, _ => throw .exhausted
  | fuel + 1, scope, node =>
      unlessRefused (refuse scope node)
        (step ⟨nodeUnless refuse limit fuel, callUnless refuse limit fuel⟩ limit fuel scope node)

def callUnless (refuse : FrameId → Node → World → Bool) (limit : Nat) :
    Nat → FunctionRef → List Value → Eval Value
  | 0, _, _ => throw .exhausted
  | fuel + 1, ref, arguments =>
      catchReturn
        (callFunction ⟨nodeUnless refuse limit fuel, callUnless refuse limit fuel⟩ ref arguments)

end

/-- The evaluator that is cut off at the first node that is refused. -/
def evaluatorUnless (refuse : FrameId → Node → World → Bool) (limit fuel : Nat) : Evaluator :=
  ⟨nodeUnless refuse limit fuel, callUnless refuse limit fuel⟩

/-- A run that ends asks for a node in a frame of a world: an evaluator that refuses nothing but
this node in this frame is cut off there. -/
structure ComesTo (limit fuel : Nat) (action : Evaluator → Eval α) (start : World) (scope : FrameId)
    (node : Node) (now : World) : Prop where
  finished (cut : World) : action (evaluator limit fuel) start ≠ .error .exhausted cut
  asked : ∃ refuse : FrameId → Node → World → Bool,
    (∀ inner other world, refuse inner other world = true → inner = scope ∧ other = node) ∧
    refuse scope node now = true ∧
    action (evaluatorUnless refuse limit fuel) start = .error .exhausted now

variable {refuse : FrameId → Node → World → Bool} {limit fuel : Nat}

theorem Refines.unlessRefused {P : World → Prop} {refuse : World → Bool} {first second : Eval α}
    (h : Refines P first second) (hrefuse : ∀ world, refuse world = true → P world) :
    Refines P (unlessRefused refuse first) second := by
  intro world
  unfold Eval.unlessRefused
  cases hcut : refuse world with
  | true => exact .inr ⟨world, rfl, hrefuse world hcut⟩
  | false => exact h world

theorem evaluatorUnless_refines (refuse : FrameId → Node → World → Bool) (limit fuel : Nat) :
    (evaluatorUnless refuse limit fuel).Refines
      (fun world => ∃ scope node, refuse scope node world = true) (evaluator limit fuel) := by
  induction fuel with
  | zero => exact ⟨fun _ _ => .refl _, fun _ _ => .refl _⟩
  | succ fuel ih =>
      constructor
      · intro scope node
        have hstep : Refines _ _ (step (evaluator limit fuel) limit (fuel + 0) scope node) :=
          step_refines ih limit (.inl rfl) scope node
        exact hstep.unlessRefused fun _ hrefused => ⟨scope, node, hrefused⟩
      · intro ref arguments
        exact (callFunction_refines ih ref arguments).catchReturn

theorem Extends.unless_or {action : Evaluator → Eval α} (h : Extends action)
    (refuse : FrameId → Node → World → Bool) {start after : World} {a : α}
    (hrun : action (evaluator limit fuel) start = .ok a after) :
    action (evaluatorUnless refuse limit fuel) start = .ok a after ∨
      ∃ scope node now, refuse scope node now = true ∧
        action (evaluatorUnless refuse limit fuel) start = .error .exhausted now := by
  rcases h (evaluatorUnless_refines refuse limit fuel) start with hsame | ⟨now, hcut, hrefused⟩
  · exact .inl (hsame.trans hrun)
  · obtain ⟨scope, node, hrefused⟩ := hrefused
    exact .inr ⟨scope, node, now, hrefused, hcut⟩

theorem evaluatorUnless_ok {scope : FrameId} {node : Node} {world after : World} {v : Value}
    (h : (evaluatorUnless refuse limit fuel).node scope node world = .ok v after) :
    refuse scope node world = false ∧
      (evaluator limit fuel).node scope node world = .ok v after := by
  constructor
  · cases fuel with
    | zero => cases h
    | succ fuel =>
        cases hrefused : refuse scope node world with
        | false => rfl
        | true =>
            change unlessRefused (refuse scope node) _ world = _ at h
            rw [unlessRefused, if_pos hrefused] at h
            cases h
  · rcases (evaluatorUnless_refines refuse limit fuel).node scope node world with
      hsame | ⟨now, hcut, -⟩
    · exact hsame.symm.trans h
    · rw [h] at hcut
      cases hcut

theorem evaluator_ok_of_le {steps : Nat} (hle : steps ≤ fuel) {scope : FrameId} {node : Node}
    {world after : World} {v : Value}
    (h : (evaluator limit steps).node scope node world = .ok v after) :
    (evaluator limit fuel).node scope node world = .ok v after := by
  obtain ⟨extra, rfl⟩ := Nat.exists_eq_add_of_le hle
  rcases (evaluator_refines limit steps extra).node scope node world with hsame | ⟨now, hcut, -⟩
  · exact hsame.symm.trans h
  · rw [h] at hcut
    cases hcut

end Eval

open Eval

theorem Contract.Sound.evaluatorUnless_evaluates {C : Contract} (hC : C.Sound)
    {refuse : FrameId → Node → World → Bool}
    (hrefuse : ∀ scope node world, refuse scope node world = true → C.world world →
      C.halted world)
    {fuel : Nat} {trace : Backtrace} (hfuel : C.fuelled fuel trace)
    (hresult : ∀ steps ≤ fuel, ∀ scope node world v after,
      (evaluatorUnless refuse C.limit steps).node scope node world = .ok v after →
        C.result world scope node v) :
    C.Evaluates (evaluatorUnless refuse C.limit fuel) trace := by
  induction fuel generalizing trace with
  | zero =>
      refine ⟨fun h _ _ => ?_, fun _ _ _ h _ _ => ?_, hresult 0 (Nat.le_refl 0) _ _ _ _ _⟩
      · exact hC.spent h.world (h.trace ▸ hfuel)
      · exact hC.spent h.world (h.trace ▸ hfuel)
  | succ fuel ih =>
      have hinner (steps : Nat) (hle : steps ≤ fuel) := hresult steps (Nat.le_succ_of_le hle)
      refine ⟨?_, ?_, hresult (fuel + 1) (Nat.le_refl _) _ _ _ _ _⟩
      · rintro world scope node ⟨hw, rfl⟩ hscope hnode
        have hnever (now : World) (h : never now = true) : C.world now → C.halted now := by cases h
        have hstep := hC.stepUntil_keeps hnever fuel hw hscope hnode
          fun hroom => ih (hC.fuel _ hfuel hroom) hinner
        rw [stepUntil_never] at hstep
        change C.Outcome _ _ world (unlessRefused (refuse scope node) _ world)
        unfold unlessRefused
        cases hrefused : refuse scope node world with
        | true => exact hrefuse scope node world hrefused hw
        | false => exact hstep
      · intro hosted world arguments h hvalues ref
        exact hC.catchReturn_keeps
          (hC.callFunction_keeps (ih (hC.hostFuel hosted hfuel) hinner) h ref hvalues)

/-! ## The value of a deferred argument -/

def Lacks (id : ThunkId) (node : Node) (scope : FrameId) (v : Value) (world : World) : Prop :=
  ∃ thunk, world.thunks[id.index]? = some thunk ∧
    (thunk = .pending node scope ∨ thunk = .forcing ∨ ∃ u, thunk = .done u ∧ u ≠ v)

/-- As long as its expression never gives a value while the argument is marked, a deferred argument
does not get that value. -/
theorem lacks_ambient (limit : Nat) (id : ThunkId) (node : Node) (scope : FrameId) (v : Value) :
    Ambient limit (Lacks id node scope v) (fun _ _ => True) fun world inner other u =>
      inner = scope → other = node → world.thunks[id.index]? = some .forcing → u ≠ v where
  refl _ := trivial
  trans _ _ := trivial
  elsewhere := by
    rintro world after ⟨thunk, hthunk, hstate⟩ hthunks -
    exact ⟨⟨thunk, hthunks ▸ hthunk, hstate⟩, trivial⟩
  addThunk := by
    rintro world other inner ⟨thunk, hthunk, hstate⟩
    have hlt : id.index < world.thunks.size := (Array.getElem?_eq_some_iff.mp hthunk).1
    refine ⟨⟨thunk, ?_, hstate⟩, trivial⟩
    simp only [World.addThunk]
    rw [Array.getElem?_push, if_neg (Nat.ne_of_lt hlt), hthunk]
  mark := by
    rintro world marked other inner ⟨thunk, hthunk, hstate⟩ -
    by_cases hsame : marked.index = id.index
    · rw [← hsame] at hthunk
      exact ⟨.forcing, hsame ▸ getElem?_setThunk hthunk .forcing, .inr (.inl rfl)⟩
    · exact ⟨thunk, by simpa [World.setThunk, hsame] using hthunk, hstate⟩
  unmark := by
    rintro world after marked other inner state ⟨first, hfirst, hfirst'⟩ hpending
      ⟨thunk, hthunk, hstate⟩ - hends
    refine ⟨?_, trivial⟩
    by_cases hsame : marked.index = id.index
    · -- it was pending with its expression, so its expression is what was evaluated
      rw [hsame, hfirst] at hpending
      obtain rfl := Option.some.inj hpending
      obtain ⟨rfl, rfl⟩ : other = node ∧ inner = scope := by simpa using hfirst'
      have hmarked : (world.setThunk marked .forcing).thunks[id.index]? = some .forcing :=
        hsame ▸ getElem?_setThunk (hsame ▸ hfirst) .forcing
      refine ⟨state, hsame ▸ getElem?_setThunk (hsame ▸ hthunk) state, ?_⟩
      rcases hends with rfl | ⟨u, rfl, hresult⟩
      · exact .inl rfl
      · exact .inr (.inr ⟨u, rfl, hresult rfl rfl hmarked⟩)
    · exact ⟨thunk, by simpa [World.setThunk, hsame] using hthunk, hstate⟩
  entered _ hlacks _ := hlacks
  left _ hlacks _ := ⟨hlacks, trivial⟩

def Contract.lacking (limit : Nat) (id : ThunkId) (node : Node) (scope : FrameId) (v : Value) :
    Contract :=
  .ambient limit (Lacks id node scope v) (fun _ _ => True) fun world inner other u =>
    inner = scope → other = node → world.thunks[id.index]? = some .forcing → u ≠ v

theorem Contract.lacking_sound (limit : Nat) (id : ThunkId) (node : Node) (scope : FrameId)
    (v : Value) : (Contract.lacking limit id node scope v).Sound :=
  (lacks_ambient limit id node scope v).sound

namespace Eval

open Classical in
/-- Refuses a node in a frame while a deferred argument is marked, if it would give a value. -/
noncomputable def refuseGiving (limit fuel : Nat) (id : ThunkId) (node : Node) (scope : FrameId)
    (v : Value) (inner : FrameId) (other : Node) (world : World) : Bool :=
  decide (inner = scope ∧ other = node ∧ world.thunks[id.index]? = some .forcing ∧
    ∃ last, (evaluator limit fuel).node scope node world = .ok v last)

theorem refuseGiving_eq_true_iff {limit fuel : Nat} {id : ThunkId} {node other : Node}
    {scope inner : FrameId} {v : Value} {world : World} :
    refuseGiving limit fuel id node scope v inner other world = true ↔
      inner = scope ∧ other = node ∧ world.thunks[id.index]? = some .forcing ∧
        ∃ last, (evaluator limit fuel).node scope node world = .ok v last := by
  simp only [refuseGiving, decide_eq_true_eq]

theorem refuseGiving_evaluates (limit fuel : Nat) (id : ThunkId) (node : Node) (scope : FrameId)
    (v : Value) (trace : Backtrace) :
    (Contract.lacking limit id node scope v).Evaluates
      (evaluatorUnless (refuseGiving limit fuel id node scope v) limit fuel) trace := by
  refine (Contract.lacking_sound limit id node scope v).evaluatorUnless_evaluates
    (fun _ _ _ _ hlacks => hlacks) trivial ?_
  rintro steps hle inner other world u after hrun rfl rfl hmarked rfl
  obtain ⟨hadmitted, hgives⟩ := evaluatorUnless_ok hrun
  have hrefused : refuseGiving limit fuel id other inner u inner other world = true :=
    refuseGiving_eq_true_iff.mpr ⟨rfl, rfl, hmarked, after, evaluator_ok_of_le hle hgives⟩
  rw [hrefused] at hadmitted
  cases hadmitted

end Eval

end LispEngine
