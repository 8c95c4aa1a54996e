import LispEngine.Proofs.Binding
import LispEngine.Proofs.Protection
import LispEngine.Proofs.Runs
import LispEngine.Proofs.Termination

/-!
# Where returns end

A call of a closure first builds its frame and then runs its body. A return in the body ends there,
with its value as the value of the call. The default forms of parameters are evaluated while the
frame is built, and a return in one of them leaves the call.
-/

namespace LispEngine

namespace Eval

variable {α β : Type} {world after : World}

/-! ## Actions without a return -/

def NeverReturns (action : Eval α) : Prop :=
  ∀ world v after, action world ≠ .error (.returned v) after

namespace NeverReturns

theorem pure (a : α) : NeverReturns (Pure.pure a : Eval α) := by
  intro world v after h
  cases h

theorem bind {action : Eval α} {next : α → Eval β} (h : NeverReturns action)
    (hnext : ∀ a, NeverReturns (next a)) : NeverReturns (action >>= next) := by
  intro world v after hreturns
  rcases bind_eq_error_iff.mp hreturns with hfirst | ⟨a, middle, _, hrest⟩
  · exact h world v after hfirst
  · exact hnext a middle v after hrest

theorem ofExcept (result : Except Cause α) : NeverReturns (ofExcept result) := by
  intro world v after h
  cases result with
  | ok a => cases h
  | error cause => cases h

end NeverReturns

private theorem values_neverReturns {ev : Evaluator} {scope : FrameId} {nodes : List Node}
    (h : ∀ node ∈ nodes, NeverReturns (ev.node scope node)) :
    NeverReturns (values ev scope nodes) := by
  induction nodes with
  | nil => exact .pure _
  | cons node nodes ih =>
      refine (h node (by simp)).bind ?_
      intro v
      refine (ih ?_).bind fun vs => .pure _
      intro other hother
      exact h other (by simp [hother])

theorem ofValue_neverReturns (limit fuel : Nat) (scope : FrameId) (u : Value)
    (position : Option Position) :
    NeverReturns ((evaluator limit fuel).node scope (.ofValue u position)) := by
  intro world v after h
  cases fuel with
  | zero => cases h
  | succ fuel =>
      change step (evaluator limit fuel) limit fuel scope (.ofValue u position) world = _ at h
      cases hroom : world.trace.isFull limit with
      | true =>
          have hfull : step (evaluator limit fuel) limit fuel scope (.ofValue u position) world =
              .error (.failed (depthFailure limit world.trace)) world := by
            change EStateM.bind (enter limit _) _ world = _
            simp [EStateM.bind, enter, hroom]
          rw [hfull] at h
          cases h
      | false =>
          rw [step_room hroom] at h
          cases h

/-! ## Building the frame of a call -/

variable {ev : Evaluator} {caller frame : FrameId}

/-- Only the default of a parameter that is not supplied can return, if the expressions of the call
do not. -/
theorem parameterSlot_returned_iff {p : Parameter Node} {bound : Bound} {v : Value}
    (h : ∀ node ∈ bound.nodes, NeverReturns (ev.node caller node)) :
    parameterSlot ev caller frame p bound world = .error (.returned v) after ↔
      bound = .missing ∧ ∃ node, p.default = some node ∧
        ev.node frame node world = .error (.returned v) after := by
  cases bound with
  | missing =>
      change (defaultValue ev frame p >>= _) world = _ ↔ _
      rw [bind_eq_error_iff]
      unfold defaultValue
      cases p.default with
      | none => simp [pure, EStateM.pure]
      | some node => simp [pure, EStateM.pure]
  | single node =>
      have hnever : NeverReturns (parameterSlot ev caller frame p (.single node)) := by
        cases hlazy : p.isLazy with
        | true =>
            intro world v after hreturns
            simp only [parameterSlot, hlazy] at hreturns
            cases hreturns
        | false =>
            simp only [parameterSlot, hlazy]
            exact (h node (by simp [Bound.nodes])).bind fun _ => .pure _
      simp [hnever world v after]
  | rest nodes =>
      have hnever : NeverReturns (parameterSlot ev caller frame p (.rest nodes)) :=
        (values_neverReturns h).bind fun _ => .pure _
      simp [hnever world v after]

/-- The slots of a frame are filled up to a parameter that the call does not supply, and its default
form returns. -/
inductive DefaultReturns (ev : Evaluator) (caller frame : FrameId) (index : Nat)
    (ps : List (Parameter Node)) (bounds : List Bound) (world : World) (v : Value) (after : World) :
    Prop where
  | intro {earlier later : List (Parameter Node)} {p : Parameter Node} {node : Node}
      {middle : World}
      (isParameter : ps = earlier ++ p :: later)
      (missing : bounds[earlier.length]? = some .missing)
      (hasDefault : p.default = some node)
      (fills : fillSlots ev caller frame index earlier bounds world = .ok () middle)
      (returns : ev.node frame node middle = .error (.returned v) after)

theorem fillSlots_cons_eq (index : Nat) (p : Parameter Node) (ps : List (Parameter Node))
    (bound : Bound) (bounds : List Bound) :
    fillSlots ev caller frame index (p :: ps) (bound :: bounds) =
      (parameterSlot ev caller frame p bound >>= fun filled =>
        modify (fun world => world.modifyFrame frame (·.fillSlot index filled.1 filled.2)) >>=
          fun _ => fillSlots ev caller frame (index + 1) ps bounds) := by
  rw [fillSlots]

private theorem fillSlots_returned_iff {v : Value} {index : Nat} {ps : List (Parameter Node)}
    {bounds : List Bound}
    (h : ∀ bound ∈ bounds, ∀ node ∈ bound.nodes, NeverReturns (ev.node caller node)) :
    fillSlots ev caller frame index ps bounds world = .error (.returned v) after ↔
      DefaultReturns ev caller frame index ps bounds world v after := by
  induction ps generalizing index bounds world with
  | nil =>
      constructor
      · intro hreturns
        cases hreturns
      · rintro ⟨isParameter, -, -, -, -⟩
        simp at isParameter
  | cons p ps ih =>
      cases bounds with
      | nil =>
          constructor
          · intro hreturns
            cases hreturns
          · rintro ⟨-, missing, -, -, -⟩
            simp at missing
      | cons bound bounds =>
          have hrest : ∀ other ∈ bounds, ∀ node ∈ other.nodes, NeverReturns (ev.node caller node) :=
            fun other hother => h other (by simp [hother])
          rw [fillSlots_cons_eq, bind_eq_error_iff, parameterSlot_returned_iff (h bound (by simp))]
          constructor
          · rintro (⟨rfl, node, hdefault, hreturns⟩ | ⟨filled, middle, hfilled, hreturns⟩)
            · exact .intro (List.nil_append (p :: ps)).symm rfl hdefault rfl hreturns
            · obtain ⟨rfl, missing, hasDefault, fills, returns⟩ := (ih hrest).mp hreturns
              refine .intro (List.cons_append ..).symm missing hasDefault ?_ returns
              rw [fillSlots_cons_eq]
              exact bind_eq_ok_iff.mpr ⟨filled, middle, hfilled, fills⟩
          · rintro ⟨isParameter, missing, hasDefault, fills, returns⟩
            rename_i earlier later q node last
            cases earlier with
            | nil =>
                cases isParameter
                cases fills
                exact .inl ⟨by simpa using missing, node, hasDefault, returns⟩
            | cons first earlier =>
                cases isParameter
                rw [fillSlots_cons_eq] at fills
                obtain ⟨filled, middle, hfilled, fills⟩ := bind_eq_ok_iff.mp fills
                refine .inr ⟨filled, middle, hfilled, (ih hrest).mpr ?_⟩
                exact .intro rfl missing hasDefault fills returns

/-! ## Calls of closures -/

theorem callFunction_closure {ref : FunctionRef} {closure : Closure}
    (h : world.defs.function? ref = some (.closure closure)) (arguments : List Value) :
    callFunction ev ref arguments world =
      (ofExcept (bindArguments closure.parts.spec
        (arguments.map (Node.ofValue · none))) >>= fun bound =>
        callFrame ev World.root closure.scope bound >>= fun frame =>
          catchReturn (body ev frame .nil closure.parts.body)) world := by
  change EStateM.bind (callableOf ref) _ world = _
  rw [EStateM.bind, callableOf_eq_ok h]
  rfl

variable {limit fuel : Nat} {ref : FunctionRef} {closure : Closure} {arguments : List Value}
  {v : Value}

private theorem callFrame_returned_iff {defining : FrameId} {bound : BoundArguments}
    (h : ∀ one ∈ bound.bound, ∀ node ∈ one.nodes, NeverReturns (ev.node caller node)) :
    callFrame ev caller defining bound world = .error (.returned v) after ↔
      DefaultReturns ev caller ⟨world.frames.size⟩ 0 bound.spec.parameters bound.bound
        (world.addCallFrame defining bound.spec).2 v after := by
  rw [← fillSlots_returned_iff h]
  unfold callFrame
  simp only [bind_eq_error_iff]
  constructor
  · rintro (hnew | ⟨frame, middle, hnew, hfill | ⟨_, last, _, hlast⟩⟩)
    · cases hnew
    · cases hnew
      exact hfill
    · cases hlast
  · intro hfill
    exact .inr ⟨_, _, rfl, .inl hfill⟩

private theorem supplied_neverReturns {spec : LambdaList Node} {bound : BoundArguments}
    (h : bindArguments spec (arguments.map (Node.ofValue · none)) = .ok bound) :
    ∀ one ∈ bound.bound, ∀ node ∈ one.nodes,
      NeverReturns ((evaluator limit fuel).node caller node) := by
  refine bindArguments_supplies h ?_
  intro node hnode
  obtain ⟨u, -, rfl⟩ := List.mem_map.mp hnode
  exact ofValue_neverReturns limit fuel caller u none

/-- A call of a closure on values ends with a return exactly if a default form returns while the
frame of the call is built. Once the frame is there, a return of the body is the value of the call.
-/
theorem callFunction_returned_iff (h : world.defs.function? ref = some (.closure closure)) :
    (callFunction (evaluator limit fuel) ref arguments world = .error (.returned v) after ↔
      ∃ bound, bindArguments closure.parts.spec (arguments.map (Node.ofValue · none)) = .ok bound ∧
        DefaultReturns (evaluator limit fuel) World.root ⟨world.frames.size⟩ 0
          closure.parts.spec.parameters bound.bound
          (world.addCallFrame closure.scope closure.parts.spec).2 v after) ∧
    (callFunction (evaluator limit fuel) ref arguments world = .ok v after ↔
      ∃ bound frame middle,
        bindArguments closure.parts.spec (arguments.map (Node.ofValue · none)) = .ok bound ∧
        callFrame (evaluator limit fuel) World.root closure.scope bound world = .ok frame middle ∧
        (body (evaluator limit fuel) frame .nil closure.parts.body middle = .ok v after ∨
          body (evaluator limit fuel) frame .nil closure.parts.body middle =
            .error (.returned v) after)) := by
  rw [callFunction_closure h]
  constructor
  · rw [bind_eq_error_iff]
    constructor
    · rintro (hbind | ⟨bound, middle, hbind, hcall⟩)
      · exact absurd hbind (NeverReturns.ofExcept _ world v after)
      · obtain ⟨hbound, rfl⟩ := ofExcept_eq_ok_iff.mp hbind
        obtain ⟨keywords, -, -, hspec⟩ := bindArguments_eq_ok hbound
        rcases bind_eq_error_iff.mp hcall with hframe | ⟨frame, last, -, hbody⟩
        · refine ⟨bound, hbound, ?_⟩
          have hdefault := (callFrame_returned_iff (supplied_neverReturns hbound)).mp hframe
          rw [hspec] at hdefault ⊢
          exact hdefault
        · exact absurd hbody (catchReturn_ne_returned _ last after v)
    · rintro ⟨bound, hbound, hdefault⟩
      obtain ⟨keywords, -, -, hspec⟩ := bindArguments_eq_ok hbound
      refine .inr ⟨bound, world, ofExcept_eq_ok_iff.mpr ⟨hbound, rfl⟩, ?_⟩
      refine bind_eq_error_iff.mpr (.inl ?_)
      refine (callFrame_returned_iff (supplied_neverReturns hbound)).mpr ?_
      rw [hspec] at hdefault ⊢
      exact hdefault
  · simp only [bind_eq_ok_iff, ofExcept_eq_ok_iff, catchReturn_eq_ok_iff]
    constructor
    · rintro ⟨bound, _, ⟨hbound, rfl⟩, frame, middle, hframe, hbody⟩
      exact ⟨bound, frame, middle, hbound, hframe, hbody⟩
    · rintro ⟨bound, frame, middle, hbound, hframe, hbody⟩
      exact ⟨bound, world, ⟨hbound, rfl⟩, frame, middle, hframe, hbody⟩

/-- The default of the second parameter returns the first one. -/
theorem callFunction_returned_first_parameter :
    let readA : Node := ⟨.readVariable "A", "A", some .start⟩
    let returnA : Node := ⟨.ofForm (.returnWith (some readA)), "RETURN", some .start⟩
    let a : Parameter Node := ⟨"A", .mandatory, none, none, false, false, false⟩
    let b : Parameter Node := ⟨"B", .optional, some returnA, none, false, false, false⟩
    let spec : LambdaList Node := .ofList [a, b]
    let closure : Closure := ⟨none, ⟨spec, none, [.ofValue (.int 2) none]⟩, World.root⟩
    let world : World := { World.initial .raise with defs := ⟨#[.closure closure], []⟩ }
    world.defs.function? ⟨0, "lambda"⟩ = some (.closure closure) ∧
      ∃ after, callFunction (evaluator 5 4) ⟨0, "lambda"⟩ [.int 1] world =
        .error (.returned (.int 1)) after := by
  intro readA returnA a b spec closure world
  have hclosure : world.defs.function? ⟨0, "lambda"⟩ = some (.closure closure) := rfl
  have hsplit : closure.parts.spec.parameters = [a] ++ b :: [] := rfl
  exact ⟨hclosure, _, (callFunction_returned_iff hclosure).1.mpr
    ⟨_, rfl, .intro hsplit rfl rfl rfl rfl⟩⟩

def endingInt? : Except Signal Value → Option (Bool × Int32)
  | .ok (.int n) => some (false, n)
  | .error (.returned (.int n)) => some (true, n)
  | _ => none

theorem eq_of_endingInt? {outcome : Except Signal Value} {returned : Bool} {n : Int32}
    (h : endingInt? outcome = some (returned, n)) :
    outcome = if returned then .error (.returned (.int n)) else .ok (.int n) := by
  unfold endingInt? at h
  split at h
  · cases h
    rfl
  · cases h
    rfl
  · cases h

/-- The function `(LAMBDA (&OPTIONAL (X (RETURN 1))) 2)`, called without arguments, does not end the
return of its own default form. -/
theorem call_lets_default_return :
    let one : Form := .leaf (.int 1) .start none
    let two : Form := .leaf (.int 2) .start none
    let parameters : Form := .ofItems [.ofSymbol "&OPTIONAL" .start, .ofItems [.ofSymbol "X" .start,
      .ofItems [.ofSymbol "RETURN" .start, one] .start] .start] .start
    let form : Form := .ofItems [.ofSymbol "LAMBDA" .start, parameters, two] .start
    let interpreter := Interpreter.new ⟨.raise, 1000⟩
    let ev := interpreter.evaluator 10
    (interpreter.run do
      let ref ← functionOf (← Interpreter.eval ev form)
      callFunction ev ref []).1 = .error (.returned (.int 1)) := by
  intro one two parameters form interpreter ev
  have hend : endingInt? (interpreter.run do
      let ref ← functionOf (← Interpreter.eval ev form)
      callFunction ev ref []).1 = some (true, 1) := by decide +kernel
  exact eq_of_endingInt? hend

end Eval

end LispEngine
