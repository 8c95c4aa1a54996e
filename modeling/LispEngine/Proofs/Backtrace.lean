import LispEngine.Proofs.Ambient

/-!
# Backtraces

Evaluations hand back the backtrace that they were started under, and while it starts within the
depth limit it stays within it. So do the backtraces that failures carry, wherever the failures are
kept.
-/

namespace LispEngine

def FailureOf.TracedWithin {V : Type} (limit : Nat) (failure : FailureOf V) : Prop :=
  ∀ trace, failure.trace = some trace → trace.size ≤ limit

@[simp]
theorem FailureOf.trace_annotate {V : Type} (failure : FailureOf V) (position : Option Position)
    (trace : Backtrace) :
    (failure.annotate position trace).trace = failure.trace.or (some trace) := by
  cases position with
  | none => rfl
  | some position => rfl

@[simp]
theorem FailureOf.payload_annotate {V : Type} (failure : FailureOf V) (position : Option Position)
    (trace : Backtrace) : (failure.annotate position trace).payload = failure.payload := by
  cases position with
  | none => rfl
  | some position => rfl

def Value.TracedWithin (limit : Nat) : Value → Prop := Value.AllFailures (·.TracedWithin limit)

/-! ## The depth of the backtrace -/

def Contract.depth (limit : Nat) (fits : Prop) : Contract :=
  .ambient limit (fun world => fits → world.trace.size ≤ limit) fun _ _ => True

theorem depth_ambient (limit : Nat) (fits : Prop) :
    Ambient limit (fun world => fits → world.trace.size ≤ limit) fun _ _ => True where
  refl _ := trivial
  trans _ _ := trivial
  elsewhere h _ htrace := ⟨htrace ▸ h, trivial⟩
  addThunk _ _ h := ⟨h, trivial⟩
  mark h _ := h
  unmark _ _ h _ _ := ⟨h, trivial⟩
  entered := by
    intro world call _ hroom _
    rw [World.entered, Backtrace.size_push]
    exact Backtrace.isFull_eq_false.mp hroom
  left h _ _ := ⟨h, trivial⟩

theorem Contract.depth_sound (limit : Nat) (fits : Prop) : (Contract.depth limit fits).Sound :=
  (depth_ambient limit fits).sound

/-! ## The backtraces of failures -/

/-- Nothing but the failures is looked at, those inside values included. -/
def Regime.failures (limit : Nat) (P : Failure → Prop) : Regime where
  limit := limit
  value := Value.AllFailures P
  loops := True
  hosted := True
  loose := False
  mayStop := True
  failure _ failure := (Value.error 0 failure).AllFailures P
  raised _ failure := (Value.error 0 failure).AllFailures P

theorem Regime.failures_leaves {limit : Nat} {P : Failure → Prop} {form : Form}
    (h : form.Holds (Value.AllFailures P)) : form.Holds (Regime.failures limit P).fragment.Leaf :=
  fun v hv => ⟨h v hv, fun _ _ _ => trivial⟩

theorem Regime.failures_lawful {limit : Nat} {P : Failure → Prop}
    (hplain : ∀ cause : Cause, cause.Plain → P (.of cause))
    (hthrown : ∀ kind message v, P (.of (.thrown kind message (some v))))
    (hfull : ∀ trace : Backtrace, trace.size ≤ limit → P (Eval.depthFailure limit trace))
    (hannotate : ∀ failure position (trace : Backtrace), trace.size ≤ limit → P failure →
      P (failure.annotate position trace)) : (Regime.failures limit P).Lawful where
  inherited := allFailures_inherited _
  plain := by
    intro trace cause h
    refine allFailures_error.mpr ⟨hplain cause h, ?_⟩
    intro v hv
    rw [FailureOf.payload, FailureOf.of, h.bare] at hv
    cases hv
  thrown := by
    intro trace kind message v hv
    refine allFailures_error.mpr ⟨hthrown kind message v, ?_⟩
    rintro u ⟨rfl⟩
    exact hv
  rethrown h := allFailures_error.mpr (allFailures_error.mp h)
  leaving h := h
  caught id h := .inr (allFailures_error.mpr (allFailures_error.mp h))
  full hsize _ := allFailures_error.mpr ⟨hfull _ hsize, by rintro v ⟨⟩⟩
  annotated := by
    intro trace call failure hroom _ hfailure
    obtain ⟨hown, hpayload⟩ := allFailures_error.mp hfailure
    refine allFailures_error.mpr ⟨hannotate _ _ _ ?_ hown, by simpa using hpayload⟩
    rw [Backtrace.size_push]
    exact Backtrace.isFull_eq_false.mp hroom
  loops_stop _ := trivial
  hosted_stop _ := trivial

abbrev Regime.traced (limit : Nat) : Regime :=
  .failures limit fun failure => failure.TracedWithin limit

theorem Regime.traced_lawful (limit : Nat) : (Regime.traced limit).Lawful := by
  refine Regime.failures_lawful ?_ ?_ ?_ ?_
  · rintro cause - _ ⟨⟩
  · rintro kind message v _ ⟨⟩
  · rintro trace hsize _ ⟨rfl⟩
    exact hsize
  · intro failure position trace hsize hfailure found hfound
    rw [FailureOf.trace_annotate] at hfound
    rcases Option.or_eq_some_iff.mp hfound with hbefore | ⟨-, hnow⟩
    · exact hfailure found hbefore
    · obtain rfl := Option.some.inj hnow
      exact hsize

/-! ## Runs -/

/-- A run hands back the backtrace that it was started under, and stays within the limit if it
started within it. -/
structure Balanced (limit : Nat) (trace : Backtrace)
    (result : EStateM.Result Signal World Unit) : Prop where
  restored : (∀ after, result ≠ .error .exhausted after) →
    (Eval.worldAfter result).trace = trace
  bounded : trace.size ≤ limit → (Eval.worldAfter result).trace.size ≤ limit

structure Contained (limit : Nat) (result : EStateM.Result Signal World Unit) : Prop where
  attached : ∀ failure after, result = .error (.failed failure) after → failure.TracedWithin limit
  /-- A caught failure is kept in the frame of its handler. -/
  held : ∀ frame ∈ (Eval.worldAfter result).frames, frame.Holds (Value.TracedWithin limit)

def Routine.Always (routine : Routine) (limit fuel : Nat) (world : World)
    (P : EStateM.Result Signal World Unit → Prop) : Prop :=
  P (routine.run (Eval.evaluator limit fuel) world) ∧
    ∀ halt, P (routine.run (Eval.evaluatorUntil halt limit fuel) world)

theorem Routine.always_of_moments {routine : Routine} {limit fuel : Nat} {world : World}
    {P : EStateM.Result Signal World Unit → Prop}
    (h : ∀ halt, P (routine.run (Eval.evaluatorUntil halt limit fuel) world)) :
    routine.Always limit fuel world P := by
  have hnever := h Eval.never
  rw [Eval.evaluatorUntil_never] at hnever
  exact ⟨hnever, h⟩

namespace Eval

variable (halt : World → Bool) (limit fuel : Nat) (routine : Routine) (world : World)

private theorem depth_keeps (fits : Prop) (hfits : fits → world.trace.size ≤ limit) :
    (Contract.depth limit fits).Keeps (fun _ => True) (fun _ _ => True) world
      (routine.run (evaluatorUntil halt limit fuel)) :=
  (depth_ambient limit fits).routine_keeps halt fuel hfits routine

end Eval

theorem Routine.run_balanced (limit fuel : Nat) (routine : Routine) (world : World)
    (trace : Backtrace) (halt : World → Bool) :
    Balanced limit trace (routine.run (Eval.evaluatorUntil halt limit fuel)
      { world with trace }) := by
  have hdepth := Eval.depth_keeps halt limit fuel routine { world with trace }
  refine ⟨?_, ?_⟩
  · intro hfinished
    exact ((hdepth False False.elim).next hfinished).trace
  · intro hsize
    exact (hdepth True fun _ => hsize).world_after (fun _ hhalted => hhalted) trivial

private theorem contained_of_reachable {limit : Nat} {missing : MissingPolicy} {world : World}
    {routine : Routine} (hworld : (Regime.traced limit).Reachable missing world)
    (hroutine : (Regime.traced limit).RoutineAllowed routine) {trace : Backtrace}
    (hsize : trace.size ≤ limit) (halt : World → Bool) (fuel : Nat) :
    Contained limit
      (routine.run (Eval.evaluatorUntil halt limit fuel) { world with trace }) := by
  have hR := Regime.traced_lawful limit
  have horder := hworld.inOrder hR id trivial
  have hkeeps := hR.contract_sound.routine_keeps (hR.evaluates trivial halt fuel trace)
    (horder.withTrace hsize) (hroutine.meets id { world with trace })
  refine ⟨?_, ?_⟩
  · intro failure after hrun
    exact (allFailures_error.mp (hkeeps.failed hrun)).1
  · intro frame hframe
    have hafter := hkeeps.world_after fun _ hhalted => hhalted.2
    exact (hafter.frames frame hframe).1.resolve_left id

/-- Whatever is asked for in whatever world, and under whatever backtrace, the backtrace is handed
back, and it is within the depth limit at every moment if it was so at the start. In the reachable
worlds the backtraces that failures carry are within the limit too. The moments of a run are
reachable themselves, so that the same holds of the evaluations inside it. -/
theorem evaluation_disciplined (settings : Settings) (world : World) (routine : Routine)
    (trace : Backtrace) (fuel : Nat) :
    routine.Always settings.maxDepth fuel { world with trace } (Balanced settings.maxDepth trace) ∧
      ((Regime.traced settings.maxDepth).Reachable settings.missing world →
        (Regime.traced settings.maxDepth).RoutineAllowed routine →
          trace.size ≤ settings.maxDepth →
            routine.Always settings.maxDepth fuel { world with trace }
              (Contained settings.maxDepth)) := by
  refine ⟨Routine.always_of_moments (Routine.run_balanced _ fuel routine world trace), ?_⟩
  intro hworld hroutine hsize
  exact Routine.always_of_moments fun halt =>
    contained_of_reachable hworld hroutine hsize halt fuel

/-- A handler that is to throw its failure again and runs into the depth limit instead. -/
theorem evaluation_disciplined_rethrown :
    let unbound : Node := ⟨.readVariable "X", "X", some .start⟩
    let caught : Node := ⟨.readVariable "E", "E", some .start⟩
    let again : Node := ⟨.ofForm (.throwWith .runtime caught), "THROW", some .start⟩
    let node : Node :=
      ⟨.ofForm (.tryCatch [unbound] [⟨.throwable, "E", [again]⟩] (some [again])), "TRY", none⟩
    let trace : Backtrace := Backtrace.empty.push ⟨"F", none, World.root⟩
    (Regime.traced 3).Reachable .raise (.initial .raise) ∧
      (Regime.traced 3).RoutineAllowed (.evaluate World.root node) ∧ trace.size ≤ 3 ∧
        (Routine.evaluate World.root node).Always 3 5 { World.initial .raise with trace }
          (Balanced 3 trace) ∧
        (Routine.evaluate World.root node).Always 3 5 { World.initial .raise with trace }
          (Contained 3) := by
  intro unbound caught again node trace
  have hunbound : unbound.Obeys (Regime.traced 3).fragment :=
    .ofCode trivial (by simp [CodeOf.children])
  have hcaught : caught.Obeys (Regime.traced 3).fragment :=
    .ofCode trivial (by simp [CodeOf.children])
  have hagain : again.Obeys (Regime.traced 3).fragment :=
    .ofCode ⟨_, rfl, trivial⟩ (by simpa [CodeOf.ofForm, CodeOf.children, FormOf.children]
      using hcaught)
  have hnode : node.Obeys (Regime.traced 3).fragment :=
    .intro ⟨_, rfl, trivial⟩ (.inl trivial)
      (by simpa [node, CodeOf.ofForm, CodeOf.children, FormOf.children] using ⟨hunbound, hagain⟩)
  have hroutine : (Regime.traced 3).RoutineAllowed (.evaluate World.root node) := hnode
  have hstart : (Regime.traced 3).Reachable .raise (.initial .raise) := .start
  have hsize : trace.size ≤ 3 := by decide
  obtain ⟨hbalanced, hcontained⟩ := evaluation_disciplined ⟨.raise, 3⟩ (.initial .raise)
    (.evaluate World.root node) trace 5
  exact ⟨hstart, hroutine, hsize, hbalanced, hcontained hstart hroutine hsize⟩

end LispEngine
