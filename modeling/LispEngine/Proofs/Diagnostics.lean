import LispEngine.Proofs.Session

/-!
# Diagnostics

A failure that leaves an evaluation tells where it arose: it carries the position of a form, and the
backtrace at that form. A failure takes them from the first node that it leaves, and keeps them when
it is caught and thrown again. Only a failure about the depth limit gets its backtrace before its
position. While it has no position no further node can be entered, so nothing can be done with it.
-/

namespace LispEngine

/-- A failure that arose when code was evaluated, with the backtrace at which it arose and the
position of the innermost evaluation of that backtrace. -/
structure FailureOf.Diagnosed {V : Type} (limit : Nat) (failure : FailureOf V) : Prop where
  evaluated : failure.cause.category ≠ .compile
  located : ∃ position trace call, failure.position = some position ∧ failure.trace = some trace ∧
    0 < trace.size ∧ trace.size ≤ limit ∧ trace.top? = some call ∧ call.position = some position

def Value.Diagnosed (limit : Nat) : Value → Prop := Value.AllFailures (·.Diagnosed limit)

namespace FailureOf

variable {V : Type} {failure : FailureOf V}

structure Fresh (failure : FailureOf V) : Prop where
  evaluated : failure.cause.category ≠ .compile
  position : failure.position = none
  trace : failure.trace = none

theorem Diagnosed.annotate {limit : Nat} (h : failure.Diagnosed limit) (position : Position)
    (trace : Backtrace) : failure.annotate (some position) trace = failure := by
  obtain ⟨position', trace', call, hposition, htrace, -⟩ := h.located
  cases failure with
  | mk cause place found =>
      simp only at hposition htrace
      simp [FailureOf.annotate, FailureOf.withPosition, FailureOf.withTrace, hposition, htrace]

end FailureOf

theorem Backtrace.top?_push (trace : Backtrace) (call : Call) :
    (trace.push call).top? = some call := by
  simp [top?, push]

/-! ## What failures carry -/

namespace Diagnosis

variable {limit : Nat} {trace : Backtrace} {failure : Failure}

def Refused (limit : Nat) (trace : Backtrace) (failure : Failure) : Prop :=
  trace.isFull limit = true ∧ failure = Eval.depthFailure limit trace

structure Raised (limit : Nat) (trace : Backtrace) (failure : Failure) : Prop where
  payload : ∀ v, failure.payload = some v → v.Diagnosed limit
  state : failure.Diagnosed limit ∨ Refused limit trace failure

structure Pending (limit : Nat) (trace : Backtrace) (failure : Failure) : Prop where
  payload : ∀ v, failure.payload = some v → v.Diagnosed limit
  state : failure.Diagnosed limit ∨ failure.Fresh ∨ Refused limit trace failure

theorem pending_fresh {cause : Cause} (hcause : cause.category ≠ .compile)
    (hpayload : ∀ v, cause.payload = some v → v.Diagnosed limit) :
    Pending limit trace (.of cause) :=
  ⟨hpayload, .inr (.inl ⟨hcause, rfl, rfl⟩)⟩

theorem Raised.pending (h : Raised limit trace failure) : Pending limit trace failure :=
  ⟨h.payload, h.state.imp_right .inr⟩

theorem Pending.annotated {position : Position} {call : Call}
    (h : Pending limit (trace.push call) failure) (hroom : trace.isFull limit = false)
    (hcall : call.position = some position) :
    (failure.annotate (some position) (trace.push call)).Diagnosed limit := by
  have hsize : (trace.push call).size ≤ limit := by
    rw [Backtrace.size_push]
    exact Backtrace.isFull_eq_false.mp hroom
  have hpositive : 0 < (trace.push call).size := by
    rw [Backtrace.size_push]
    exact Nat.succ_pos _
  have hhere (hevaluated : failure.cause.category ≠ .compile) (hposition : failure.position = none)
      (htrace : failure.trace = none ∨ failure.trace = some (trace.push call)) :
      (failure.annotate (some position) (trace.push call)).Diagnosed limit := by
    refine ⟨hevaluated, position, trace.push call, call, ?_, ?_, hpositive, hsize,
      Backtrace.top?_push trace call, hcall⟩
    · simp [FailureOf.annotate, FailureOf.withPosition, FailureOf.withTrace, hposition]
    · rcases htrace with hnone | hsome
      · simp [FailureOf.annotate, FailureOf.withPosition, FailureOf.withTrace, hnone]
      · simp [FailureOf.annotate, FailureOf.withPosition, FailureOf.withTrace, hsome]
  rcases h.state with hdiagnosed | hfresh | ⟨-, rfl⟩
  · rw [hdiagnosed.annotate]
    exact hdiagnosed
  · exact hhere hfresh.evaluated hfresh.position (.inl hfresh.trace)
  · exact hhere (by simp [Eval.depthFailure, FailureOf.of, FailureOf.withTrace, CauseOf.category])
      rfl (.inr rfl)

end Diagnosis

open Diagnosis

/-- The failures that are kept are diagnosed. A handler may run for a failure that is not, but it
then runs where nothing can be entered. -/
def Regime.diagnosed (limit : Nat) : Regime where
  limit := limit
  value := Value.Diagnosed limit
  loops := True
  hosted := False
  loose := True
  mayStop := True
  failure := Pending limit
  raised := Raised limit

theorem Regime.diagnosed_lawful (limit : Nat) : (Regime.diagnosed limit).Lawful where
  inherited := allFailures_inherited _
  plain := by
    intro trace cause hplain
    refine pending_fresh hplain.evaluating ?_
    intro v hv
    rw [hplain.bare] at hv
    cases hv
  thrown := by
    intro trace kind message v hv
    refine pending_fresh (by simp [CauseOf.category]) ?_
    rintro u ⟨rfl⟩
    exact hv
  rethrown := by
    intro trace id failure h
    obtain ⟨hown, hpayload⟩ := allFailures_error.mp h
    exact ⟨hpayload, .inl hown⟩
  leaving h := h.pending
  caught := by
    intro trace failure id h
    rcases h.state with hdiagnosed | ⟨hfull, -⟩
    · exact .inr (allFailures_error.mpr ⟨hdiagnosed, h.payload⟩)
    · -- a refused call lacks a position, but no node of the handler can be entered either
      exact .inl ⟨trivial, hfull⟩
  full := by
    intro trace _ hfull
    exact ⟨by rintro v ⟨⟩, .inr ⟨hfull, rfl⟩⟩
  annotated := by
    intro trace call failure hroom hplaced h
    obtain ⟨position, hposition⟩ := Option.isSome_iff_exists.mp (hplaced.resolve_left id)
    rw [hposition]
    exact ⟨h.payload, .inl (h.annotated hroom hposition)⟩
  loops_stop _ := trivial
  hosted_stop := False.elim

/-! ## Evaluations of forms -/

namespace Interpreter

variable {settings : Settings} {interpreter : Interpreter} {form : Form}

private theorem holds_leaf_of_diagnosed {limit : Nat} (h : form.Holds (Value.Diagnosed limit)) :
    form.Holds (Regime.diagnosed limit).fragment.Leaf :=
  fun v hv => ⟨h v hv, fun _ _ _ => trivial⟩

private theorem eval_of_compile {ev : Evaluator} {world after : World} {node : Node}
    (h : compile form world = .ok node after) :
    eval ev form world = evalNode ev World.root node after := by
  change EStateM.bind (compile form) _ world = _
  unfold EStateM.bind
  rw [h]

/-- When a form that compiles fails to evaluate, the failure is diagnosed. The leaves of the form,
and of the forms that were evaluated before it, hold no error value whose failure is not diagnosed:
such a value comes from the embedding program only, and throwing it again raises its failure as it
is. -/
theorem eval_failure_diagnosed (hdepth : 1 ≤ settings.maxDepth)
    (h : Reached settings (fun form => form.Holds (Value.Diagnosed settings.maxDepth)) interpreter)
    (hform : form.Holds (Value.Diagnosed settings.maxDepth)) {node : Node}
    (hcompiles : (interpreter.run (compile form)).1 = .ok node) {fuel : Nat} {failure : Failure}
    (hfails : (interpreter.run (eval (interpreter.evaluator fuel) form)).1 =
      .error (.failed failure)) :
    failure.Diagnosed settings.maxDepth := by
  have hR := Regime.diagnosed_lawful settings.maxDepth
  have horder : (Regime.diagnosed settings.maxDepth).InOrder
      { interpreter.world with trace := .empty } :=
    (h.inOrder hR trivial rfl fun _ => holds_leaf_of_diagnosed).withTrace (Nat.zero_le _)
  have hev := hR.evaluates trivial Eval.never fuel .empty
  rw [Eval.evaluatorUntil_never] at hev
  obtain ⟨compiled, hcompile⟩ := run_ok hcompiles
  have hcompiled := Regime.compile_keeps hR horder (holds_leaf_of_diagnosed hform)
  unfold Contract.Keeps at hcompiled
  rw [hcompile] at hcompiled
  obtain ⟨hnext, hnode⟩ := hcompiled
  have htrace : compiled.trace = .empty := hnext.trace
  rw [← htrace] at hev
  obtain ⟨after, hrun⟩ := run_error hfails
  rw [eval_of_compile hcompile, Interpreter.evaluator, h.maxDepth] at hrun
  have hraised := (Regime.evalNode_keeps hR hnext.world hev hnode).failed hrun
  rcases hraised.state with hdiagnosed | ⟨hfull, -⟩
  · exact hdiagnosed
  · -- the first node can always be entered
    rw [htrace] at hfull
    have hsize := Backtrace.isFull_eq_true.mp hfull
    exact absurd hdepth (by simpa [Backtrace.size, Backtrace.empty] using hsize)

def isFailure : Except Signal Value → Bool
  | .error (.failed _) => true
  | _ => false

private theorem exists_failure {ended : Except Signal Value} (h : isFailure ended = true) :
    ∃ failure, ended = .error (.failed failure) := by
  cases ended with
  | ok v => cases h
  | error signal =>
      cases signal with
      | failed failure => exact ⟨failure, rfl⟩
      | returned v => cases h
      | exhausted => cases h

/-- A failure that a handler throws again keeps the diagnosis of its first node. -/
theorem eval_failure_diagnosed_rethrown :
    let form : Form := .ofItems [.ofSymbol "TRY" .start, .ofSymbol "X" .start,
      .ofItems [.ofSymbol "CATCH" .start, .ofSymbol "Throwable" .start, .ofSymbol "E" .start,
        .ofItems [.ofSymbol "THROW" .start, .ofSymbol "E" .start] .start] .start] .start
    let interpreter := Interpreter.new ⟨.raise, 3⟩
    form.Holds (Value.Diagnosed 3) ∧
      ∃ node failure, (interpreter.run (compile form)).1 = .ok node ∧
        (interpreter.run (eval (interpreter.evaluator 5) form)).1 = .error (.failed failure) ∧
          failure.Diagnosed 3 := by
  intro form interpreter
  have hsymbol (name : String) : Value.Diagnosed 3 (.symbol name) :=
    (allFailures_inherited _).leaf rfl
  have hform : form.Holds (Value.Diagnosed 3) := by
    simp [form, Form.ofItems, Form.ofSymbol, Form.holds_list, Form.holds_leaf, hsymbol]
  have hcompiles : (interpreter.run (compile form)).1.isOk = true := by decide +kernel
  have hfails : isFailure (interpreter.run (eval (interpreter.evaluator 5) form)).1 = true := by
    decide +kernel
  have hstart : Reached ⟨.raise, 3⟩ (fun form => form.Holds (Value.Diagnosed 3)) interpreter :=
    .start
  cases hnode : (interpreter.run (compile form)).1 with
  | error signal =>
      rw [hnode] at hcompiles
      cases hcompiles
  | ok node =>
      obtain ⟨failure, hfailure⟩ := exists_failure hfails
      exact ⟨hform, node, failure, rfl, hfailure,
        eval_failure_diagnosed (by decide) hstart hform hnode hfailure⟩

end Interpreter

end LispEngine
