import LispEngine.Proofs.Backtrace
import LispEngine.Proofs.Guards

/-!
# Safety of compiled code

The parameters of a form stand in a place of their own, which the compiler fills once and which the
evaluator reads. Compiled code always finds it filled, the slots of a call frame are there when
they are filled and read, and native functions are run on the values that they were declared for.
-/

namespace LispEngine

/-! ## Failures of the embedding program -/

abbrev Value.Parametrised : Value → Prop :=
  Value.AllFailures fun failure => failure.cause.isHostOnly = false

abbrev Regime.parametrised (limit : Nat) : Regime :=
  .failures limit fun failure => failure.cause.isHostOnly = false

theorem Regime.parametrised_lawful (limit : Nat) : (Regime.parametrised limit).Lawful := by
  refine Regime.failures_lawful (fun _ h => h.own) (fun _ _ _ => rfl) (fun _ _ => rfl) ?_
  intro failure position trace _ h
  cases position with
  | none => exact h
  | some position => exact h

/-- The embedding program hands in no such failure, refers to what is there, and stays within the
depth limit. -/
def Move.Sensible (limit : Nat) (world : World) (move : Move) : Prop :=
  (Regime.parametrised limit).MoveAllowed move ∧ move.Refers world ∧ world.trace.size ≤ limit

namespace World.ReachedBy

variable {limit : Nat} {missing : MissingPolicy} {world : World}
  (h : ReachedBy limit missing (Move.Sensible limit) world)

include h

theorem sensible_inOrder : (Regime.parametrised limit).InOrder world := by
  have hreachable : (Regime.parametrised limit).Reachable missing world := by
    induction h with
    | start => exact .start
    | move move trace halt fuel reached allowed ih =>
        exact .move move trace halt fuel ih allowed.1 allowed.2.2
  exact hreachable.inOrder (Regime.parametrised_lawful limit) not_false trivial

theorem sensible_wellFormed : world.WellFormed :=
  (h.mono fun _ _ hmove => hmove.2.1).wellFormed

end World.ReachedBy

/-! ## Special expressions -/

theorem Special.compileExpression_callee {expression : SpecialExpression} {nodes : List Node}
    {position : Position} {count last : Nat} {form : BuiltIn}
    (h : Special.compileExpression expression nodes position count = .ok form last) :
    ∃ callee arguments, nodes = callee :: arguments ∧
      (form = .funcall callee arguments ∨ form = .applyList callee arguments) := by
  unfold Special.compileExpression at h
  split at h
  · cases h
    exact ⟨_, _, rfl, .inl rfl⟩
  · cases h
  · cases h
    exact ⟨_, _, rfl, .inr rfl⟩
  · cases h

/-! ## Compiled code -/

namespace World.ReachedBy

variable {limit : Nat} {missing : MissingPolicy} {world after : World} {form : Form} {node : Node}

private theorem compile_fit (h : ReachedBy limit missing (Move.Sensible limit) world)
    {trace : Backtrace} (htrace : trace.size ≤ limit) (hform : form.Holds Value.Parametrised)
    (hcompile : Interpreter.compile form { world with trace } = .ok node after) :
    node.Proper ∧ node.Obeys (Regime.parametrised limit).fragment := by
  have hproper : (wellFormedContract limit).Keeps (fun _ => True) (fun _ node => node.Proper)
      { world with trace } (Interpreter.compile form) :=
    compile_wellFormed (h.sensible_wellFormed.withTrace trace) form
  have hobeys := Regime.compile_keeps (Regime.parametrised_lawful limit)
    (h.sensible_inOrder.withTrace htrace) (Regime.failures_leaves hform)
  exact ⟨(hproper.ok hcompile).2, (hobeys.ok hcompile).2⟩

section

variable {now : World} {scope : FrameId}

private theorem evaluation_parametrised (h : (Regime.parametrised limit).InOrder now)
    (hnode : node.Obeys (Regime.parametrised limit).fragment) {fuel : Nat} {failure : Failure}
    {last : World}
    (hrun : (Eval.evaluator limit fuel).node scope node now = .error (.failed failure) last) :
    failure.cause.isHostOnly = false := by
  have hev := (Regime.parametrised_lawful limit).evaluates trivial Eval.never fuel now.trace
  rw [Eval.evaluatorUntil_never] at hev
  have hkeeps : (Regime.parametrised limit).contract.Keeps _ _ now
      ((Eval.evaluator limit fuel).node scope node) :=
    hev.node ⟨h, rfl⟩ (.inl fun hloose => hloose.elim) hnode
  exact (allFailures_error.mp (hkeeps.failed hrun)).1

private theorem moment_wellFormed (h : now.WellFormed) (hscope : now.HasFrame scope)
    (hnode : node.Proper) (limit : Nat) (halt : World → Bool) (fuel : Nat) :
    (Eval.worldAfter ((Eval.evaluatorUntil halt limit fuel).node scope node now)).WellFormed := by
  have hkeeps : (wellFormedContract limit).Keeps _ _ now
      ((Eval.evaluatorUntil halt limit fuel).node scope node) :=
    (evaluates_wellFormed halt fuel now.trace).node ⟨h, rfl⟩ hscope hnode
  exact hkeeps.world_after fun _ hmoment => hmoment

end

/-- Code that was compiled in a reachable world can be evaluated in every reachable world. It never
fails because parameters are set twice or never. At no moment do the places that a lambda list gives
to names lead past the slots or the supply records of a call frame. Evaluations and calls are what
they are with guards, which make sure that a slot is there before it is filled, that a native
function is run on one value for each parameter in their order, that of a rest parameter being a
list, and that no value is missing which a primitive function reads. A special expression has a
first parameter. -/
theorem compiled_safe {trace trace' : Backtrace} {now : World}
    (h : ReachedBy limit missing (Move.Sensible limit) world) (htrace : trace.size ≤ limit)
    (hform : form.Holds Value.Parametrised)
    (hcompile : Interpreter.compile form { world with trace } = .ok node after)
    (hnow : ReachedBy limit missing (Move.Sensible limit) now) (htrace' : trace'.size ≤ limit)
    {scope : FrameId} (hscope : now.HasFrame scope) (fuel : Nat) :
    let start := { now with trace := trace' }
    (∀ failure last,
      (Eval.evaluator limit fuel).node scope node start = .error (.failed failure) last →
      failure.cause ≠ .parametersSet ∧ failure.cause ≠ .parametersUnset) ∧
    (∀ halt id frame call,
      (Eval.worldAfter ((Eval.evaluatorUntil halt limit fuel).node scope node start)).frame? id =
        some frame → frame.call = some call →
      ∀ name index, call.spec.indexOf? name = some index ∨ call.spec.flagIndex? name = some index →
        index < call.slots.length ∧ index < call.supplied.length) ∧
    (∀ fault, (Eval.Guarded.evaluator fault limit fuel).node scope node start =
      (Eval.evaluator limit fuel).node scope node start) ∧
    (∀ fault ref arguments,
      Eval.catchReturn
          (Eval.Guarded.callFunction fault (Eval.Guarded.evaluator fault limit fuel) ref arguments)
          start =
        Interpreter.call (Eval.evaluator limit fuel) ref arguments start) ∧
    ∀ expression nodes position count form last,
      Special.compileExpression expression nodes position count = .ok form last →
      ∃ callee arguments, nodes = callee :: arguments ∧
        (form = .funcall callee arguments ∨ form = .applyList callee arguments) := by
  intro start
  obtain ⟨hproper, hobeys⟩ := h.compile_fit htrace hform hcompile
  have hstart : start.WellFormed := hnow.sensible_wellFormed.withTrace trace'
  refine ⟨?_, ?_, ?_, ?_, ?_⟩
  · intro failure last hrun
    have hraised := evaluation_parametrised (hnow.sensible_inOrder.withTrace htrace') hobeys hrun
    constructor
    · intro hcause
      simp [hcause, CauseOf.isHostOnly] at hraised
    · intro hcause
      simp [hcause, CauseOf.isHostOnly] at hraised
  · intro halt id frame call hframe hcall name index hindex
    have hmoment := moment_wellFormed hstart hscope hproper limit halt fuel
    have hfits := (hmoment.frames id frame hframe).call call hcall
    have hlt := hfits.accepted.orderly.indexed.lt_size hindex
    exact ⟨by rw [hfits.slots]; exact hlt, by rw [hfits.supplied]; exact hlt⟩
  · exact fun fault => Eval.Guarded.node_eq fault limit fuel hstart.faithful scope node
  · exact fun fault ref arguments =>
      Eval.Guarded.call_eq fault limit fuel hstart.faithful ref arguments
  · exact fun _ _ _ _ _ _ hcode => Special.compileExpression_callee hcode

/-- A function with an optional parameter, whose default is read from another slot, is called
through a special expression and calls a primitive function. -/
theorem compiled_safe_optional_parameter :
    let symbol (name : String) : Form := .ofSymbol name .start
    let list (items : List Form) : Form := .ofItems items .start
    let parameters := list [symbol "X", symbol "&OPTIONAL",
      list [symbol "Y", symbol "X", symbol "P"]]
    let form := list [symbol "FUNCALL",
      list [symbol "LAMBDA", parameters, list [symbol "EQUAL", symbol "X", symbol "Y"]],
      .leaf (.int 1) .start none]
    form.Holds Value.Parametrised ∧
      ∃ node after v last,
        Interpreter.compile form { World.initial .raise with trace := .empty } = .ok node after ∧
        ReachedBy 10 .raise (Move.Sensible 10) after ∧ after.HasFrame World.root ∧
        v.isTruthy = true ∧
        ∀ fault, (Eval.Guarded.evaluator fault 10 10).node World.root node
          { after with trace := .empty } = .ok v last := by
  intro symbol list parameters form
  have hsymbol (name : String) : (Value.symbol name).Parametrised :=
    (allFailures_inherited _).leaf rfl
  have hint : (Value.int 1).Parametrised := (allFailures_inherited _).leaf rfl
  have hform : form.Holds Value.Parametrised := by
    simp [form, list, symbol, parameters, Form.ofItems, Form.ofSymbol, Form.holds_list,
      Form.holds_leaf, hsymbol, hint]
  have hvalue : (EStateM.run' (do
      let node ← Interpreter.compile form
      modify fun world => { world with trace := .empty }
      (Eval.evaluator 10 10).node World.root node : Eval Value)
      { World.initial .raise with trace := .empty }).map Value.isTruthy = some true := by
    decide +kernel
  have hstart : ReachedBy 10 .raise (Move.Sensible 10) (.initial .raise) := .start
  have hroom : Backtrace.empty.size ≤ 10 := Nat.zero_le _
  generalize World.initial .raise = world at hvalue hstart ⊢
  obtain ⟨v, hrun, htruthy⟩ := Option.map_eq_some_iff.mp hvalue
  obtain ⟨last, hrun⟩ := Eval.exists_of_run' hrun
  obtain ⟨node, after, hcompile, hnode⟩ := Eval.bind_eq_ok_iff.mp hrun
  have hreached := hstart.compile ⟨Regime.failures_leaves hform, trivial, hroom⟩ hcompile
  have hroot := hreached.sensible_wellFormed.root
  refine ⟨hform, node, after, v, last, hcompile, hreached, hroot, htruthy, ?_⟩
  intro fault
  obtain ⟨-, -, hguarded, -⟩ := hstart.compiled_safe hroom hform hcompile hreached hroom hroot 10
  exact (hguarded fault).trans hnode

end World.ReachedBy

end LispEngine
