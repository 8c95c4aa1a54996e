import LispEngine.Proofs.Fuel
import LispEngine.Proofs.Session

/-!
# Termination

Every evaluation of a node makes the backtrace longer, and its length is limited. So the only
evaluations that can go on forever are those of loops, and those that the embedding program asks for
again and again.
-/

namespace LispEngine

/-! ## Returns -/

namespace Eval

theorem catchReturn_ne_returned (action : Eval Value) (world after : World) (v : Value) :
    catchReturn action world ≠ .error (.returned v) after := by
  change EStateM.bind (observe action) _ world ≠ _
  unfold EStateM.bind observe
  cases action world with
  | ok u last => simp [resume, pure, EStateM.pure]
  | error signal last =>
      cases signal with
      | failed failure =>
          rintro ⟨⟩
      | returned u => simp [pure, EStateM.pure]
      | exhausted => simp

end Eval

namespace Interpreter

def anyCode : Fragment := ⟨fun _ => True, True, fun _ => True, True, True⟩

theorem obeys_anyCode (defs : Definitions) : defs.Obeys anyCode fun _ => True := by
  intro pair _
  cases pair.2.kind with
  | form operator =>
      cases operator with
      | special form => exact fun _ => .inl trivial
      | host accept => exact fun _ _ => ⟨fun _ _ => trivial, fun _ _ => trivial⟩
  | expression operator =>
      cases operator with
      | special expression => trivial
      | host accept => exact fun _ _ => ⟨fun _ _ => trivial, fun _ _ => trivial⟩
  | function ref => trivial

theorem holds_anyCode (form : Form) : form.Holds anyCode.Leaf :=
  fun _ _ => ⟨trivial, fun _ _ _ => trivial⟩

theorem compileChecked_anyCode (defs : Definitions) (form : Form) :
    Compile.Gives (fun _ => True) (Node.Obeys anyCode) (compileChecked defs form) :=
  (compilable_of_leaves inherited_true defs).compileChecked_gives (obeys_anyCode defs)
    (holds_anyCode form) fun _ _ _ => trivial

private theorem compile_ends (form : Form) (world : World) :
    (∃ node after, compile form world = .ok node after) ∨
      ∃ failure after, compile form world = .error (.failed failure) after := by
  rcases compile_of_gives (compileChecked_anyCode world.defs form) with
    ⟨node, after, hrun, -⟩ | ⟨failure, after, hrun, -⟩
  · exact .inl ⟨node, after, hrun⟩
  · exact .inr ⟨failure, after, hrun⟩

theorem eval_ne_returned (ev : Evaluator) (form : Form) (world after : World) (v : Value) :
    eval ev form world ≠ .error (.returned v) after := by
  change EStateM.bind (compile form) _ world ≠ _
  unfold EStateM.bind
  rcases compile_ends form world with ⟨node, last, hrun⟩ | ⟨failure, last, hrun⟩
  · rw [hrun]
    exact Eval.catchReturn_ne_returned _ last after v
  · rw [hrun]
    simp

end Interpreter

/-! ## Evaluations without loops -/

/-- No loop is evaluated, and the embedding program takes no part. -/
def Regime.loopFree (limit : Nat) (mayStop : Prop) : Regime where
  limit := limit
  value _ := True
  loops := False
  hosted := False
  loose := False
  mayStop := mayStop
  failure _ _ := True
  raised _ _ := True

theorem Regime.loopFree_lawful (limit : Nat) (mayStop : Prop) :
    (Regime.loopFree limit mayStop).Lawful where
  inherited := inherited_true
  plain _ := trivial
  thrown _ := trivial
  rethrown _ := trivial
  leaving _ := trivial
  caught _ _ := .inr trivial
  full _ _ := trivial
  annotated _ _ _ _ _ := trivial
  loops_stop := False.elim
  hosted_stop := False.elim

private theorem Form.holds_loopFree {form : Form} {limit : Nat} {mayStop : Prop}
    (h : form.mentions "WHILE" = false) :
    form.Holds (Regime.loopFree limit mayStop).fragment.Leaf := by
  intro v hv
  refine ⟨trivial, ?_⟩
  rintro name rfl hname
  have hother := List.any_eq_false.mp h _ hv
  refine hother ?_
  have hcanonical : Text.canonical "WHILE" = "WHILE" := by decide +kernel
  simp only [Text.sameName, hcanonical, hname]
  decide

namespace Interpreter

private theorem inOrder_loopFree {limit : Nat} {world : World}
    (h : (Regime.loopFree limit True).InOrder world) :
    (Regime.loopFree limit False).InOrder world :=
  ⟨h.depth, h.root, h.frames, h.thunks, h.functions, h.closures, h.table, h.sites⟩

theorem eval_finishes {settings : Settings} {interpreter : Interpreter}
    (h : Reached settings (fun form => form.mentions "WHILE" = false) interpreter) {form : Form}
    (hform : form.mentions "WHILE" = false) {fuel : Nat} (hfuel : settings.maxDepth < fuel)
    (after : World) :
    eval (interpreter.evaluator fuel) form { interpreter.world with trace := .empty } ≠
      .error .exhausted after := by
  -- the world that earlier evaluations leave does not depend on the steps that they were given
  have horder := h.inOrder (Regime.loopFree_lawful settings.maxDepth True) trivial rfl
    fun _ hsort => Form.holds_loopFree hsort
  have hR := Regime.loopFree_lawful settings.maxDepth False
  have hev : (Regime.loopFree settings.maxDepth False).contract.Evaluates
      (Eval.evaluator settings.maxDepth fuel) .empty := by
    rw [← Eval.evaluatorUntil_never]
    refine hR.contract_sound.evaluatorUntil_evaluates (by simp [Eval.never]) (.inr ?_)
    simpa [Backtrace.size, Backtrace.empty, Regime.loopFree] using hfuel
  have hkeeps := run_keeps hR (inOrder_loopFree horder) hev h.maxDepth
    (Form.holds_loopFree hform)
  intro hrun
  unfold Contract.Keeps at hkeeps
  rw [hrun] at hkeeps
  exact hkeeps.1

private theorem eval_refines (interpreter : Interpreter) (form : Form) (fuel extra : Nat) :
    Eval.Refines (fun _ => True) (eval (interpreter.evaluator fuel) form)
      (eval (interpreter.evaluator (fuel + extra)) form) :=
  (Eval.Refines.refl (compile form)).bind fun node =>
    ((Eval.evaluator_refines interpreter.settings.maxDepth fuel extra).node World.root
      node).catchReturn

/-- Without WHILE, an evaluation ends with a value or a failure. More steps than the depth limit are
enough for it, and further ones change nothing. -/
theorem eval_terminates {settings : Settings} {interpreter : Interpreter}
    (h : Reached settings (fun form => form.mentions "WHILE" = false) interpreter) {form : Form}
    (hform : form.mentions "WHILE" = false) :
    ∃ outcome : Interpreter.Result Value,
      (∀ fuel, settings.maxDepth < fuel →
        interpreter.run (eval (interpreter.evaluator fuel) form) = outcome) ∧
      ((∃ v, outcome.1 = .ok v) ∨ ∃ failure, outcome.1 = .error (.failed failure)) := by
  have hfinishes := eval_finishes h hform (Nat.lt_succ_self settings.maxDepth)
  refine ⟨interpreter.run (eval (interpreter.evaluator (settings.maxDepth + 1)) form), ?_, ?_⟩
  · intro fuel hfuel
    obtain ⟨extra, rfl⟩ := Nat.exists_eq_add_of_lt hfuel
    rw [Nat.add_right_comm]
    rcases eval_refines interpreter form (settings.maxDepth + 1) extra
      { interpreter.world with trace := .empty } with hsame | ⟨after, hcut, -⟩
    · unfold Interpreter.run
      rw [hsame]
    · exact absurd hcut (hfinishes after)
  · cases houtcome : (interpreter.run
        (eval (interpreter.evaluator (settings.maxDepth + 1)) form)).1 with
    | ok v => exact .inl ⟨v, rfl⟩
    | error signal =>
        obtain ⟨after, hrun⟩ := run_error houtcome
        cases signal with
        | failed failure => exact .inr ⟨failure, rfl⟩
        | returned v => exact absurd hrun (eval_ne_returned _ _ _ after v)
        | exhausted => exact absurd hrun (hfinishes after)

/-- A function that only calls itself, handed to itself. -/
theorem eval_terminates_self_application :
    let twice : Form := .ofItems [.ofSymbol "LAMBDA" .start, .ofItems [.ofSymbol "F" .start] .start,
      .ofItems [.ofSymbol "FUNCALL" .start, .ofSymbol "F" .start, .ofSymbol "F" .start] .start]
      .start
    let form : Form := .ofItems [.ofSymbol "FUNCALL" .start, twice, twice] .start
    form.mentions "WHILE" = false ∧
      ∃ outcome : Interpreter.Result Value,
        (∀ fuel, 1000 < fuel →
          (Interpreter.new ⟨.raise, 1000⟩).run
            (eval ((Interpreter.new ⟨.raise, 1000⟩).evaluator fuel) form) = outcome) ∧
        ((∃ v, outcome.1 = .ok v) ∨ ∃ failure, outcome.1 = .error (.failed failure)) := by
  intro twice form
  have hform : form.mentions "WHILE" = false := by decide +kernel
  have hstart : Reached ⟨.raise, 1000⟩ (fun form => form.mentions "WHILE" = false)
      (.new ⟨.raise, 1000⟩) := .start
  exact ⟨hform, eval_terminates hstart hform⟩

end Interpreter

end LispEngine
