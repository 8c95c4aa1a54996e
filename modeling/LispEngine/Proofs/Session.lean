import LispEngine.Proofs.Store

/-!
# Sessions

What an embedding program can ask of an interpreter: to evaluate, to compile, and to change frames
and definitions. A state is reachable if such moves lead to it from the state at the start, or to a
run that goes through it.
-/

namespace LispEngine

/-! ## Routines -/

inductive Routine where
  | evaluate (scope : FrameId) (node : Node)
  | invoke (caller : FrameId) (callable : Callable) (arguments : BoundArguments)
  | call (callee : FunctionRef) (arguments : List Value)
  | frame (caller defining : FrameId) (arguments : BoundArguments)
  | values (caller : FrameId) (bounds : List Bound)
  | force (thunk : ThunkId)

namespace Routine

def run (ev : Evaluator) : Routine → Eval Unit
  | evaluate scope node => do let _ ← ev.node scope node
  | invoke caller callable arguments => do let _ ← Eval.invoke ev caller callable arguments
  | call callee arguments => do let _ ← Eval.callFunction ev callee arguments
  | frame caller defining arguments => do let _ ← Eval.callFrame ev caller defining arguments
  | values caller bounds => do let _ ← Eval.argumentValues ev caller bounds
  | force thunk => do let _ ← Eval.force ev thunk

def Meets (C : Contract) (world : World) : Routine → Prop
  | evaluate scope node => C.enter world scope ∧ C.node node
  | invoke caller callable arguments =>
      C.scope world caller ∧ C.Function world callable ∧ C.Arguments arguments
  | call _ arguments => ∀ v ∈ arguments, C.value v
  | frame caller defining arguments =>
      C.scope world caller ∧ C.scope world defining ∧ C.Arguments arguments
  | values caller bounds =>
      C.scope world caller ∧ ∀ bound ∈ bounds, ∀ node ∈ bound.nodes, C.node node
  | force _ => True

end Routine

theorem Contract.Sound.routine_keeps {C : Contract} (hC : C.Sound) {ev : Evaluator} {world : World}
    (hev : C.Evaluates ev world.trace) (h : C.world world) {routine : Routine}
    (hmeets : routine.Meets C world) :
    C.Keeps (C.failure world.trace) (fun _ _ => True) world (routine.run ev) := by
  have hat : C.At world.trace world := ⟨h, rfl⟩
  cases routine with
  | evaluate scope node =>
      exact hC.keeps_discard ((hev.node hat hmeets.1 hmeets.2).error fun _ => hC.leaving)
  | invoke caller callable arguments =>
      exact hC.keeps_discard (hC.invoke_keeps hev hat hmeets.1 hmeets.2.1 hmeets.2.2)
  | call callee arguments => exact hC.keeps_discard (hC.callFunction_keeps hev hat callee hmeets)
  | frame caller defining arguments =>
      exact hC.keeps_discard ((hC.callFrame_keeps hev hat hmeets.1 hmeets.2.1 hmeets.2.2).error
        fun _ => hC.leaving)
  | values caller bounds =>
      exact hC.keeps_discard ((hC.argumentValues_keeps hev hat hmeets.1 hmeets.2).error
        fun _ => hC.leaving)
  | force thunk => exact hC.keeps_discard (hC.force_keeps hev hat thunk)

/-! ## Compiling -/

theorem Contract.compiling_keeps {C : Contract} {world : World} {α : Type} {E : Failure → Prop}
    {Q : α → Prop} {compilation : Definitions → Compile α}
    (hgrown : ∀ count, C.Next world (world.growSites count))
    (hgives : Compile.Gives E Q (compilation world.defs)) :
    C.Keeps E (fun _ => Q) world (Interpreter.compiling compilation) := by
  have hends := hgives world.sites.size
  unfold Contract.Keeps Interpreter.compiling
  cases hrun : compilation world.defs world.sites.size with
  | ok a count =>
      rw [hrun] at hends
      exact ⟨hgrown count, hends⟩
  | error signal count =>
      rw [hrun] at hends
      cases signal with
      | failed failure => exact ⟨hgrown count, hends⟩
      | returned v => exact hends.elim
      | exhausted => exact hends.elim

namespace Regime

variable {R : Regime} {world : World}

theorem InOrder.growSites (h : R.InOrder world) (count : Nat) :
    R.InOrder (world.growSites count) := by
  refine h.withSites ?_
  intro call hcall
  rcases Array.mem_append.mp hcall with hold | hnew
  · exact h.sites call hold
  · exact absurd (Array.mem_replicate.mp hnew).2 (by simp)

theorem compiling_keeps {α : Type} {E : Failure → Prop} {Q : α → Prop}
    {compilation : Definitions → Compile α} (h : R.InOrder world)
    (hgives : Compile.Gives E Q (compilation world.defs)) :
    R.contract.Keeps E (fun _ => Q) world (Interpreter.compiling compilation) :=
  Contract.compiling_keeps
    (fun count => Lawful.next_of_frames_eq (h.growSites count) rfl rfl) hgives

variable (hR : R.Lawful)

include hR

theorem compile_keeps {form : Form} (h : R.InOrder world) (hform : form.Holds R.fragment.Leaf) :
    R.contract.Keeps (fun _ => True) (fun _ node => node.Obeys R.fragment) world
      (Interpreter.compile form) :=
  compiling_keeps h ((compilable_of_leaves hR.inherited _).compileChecked_gives h.table hform
    fun _ _ _ => trivial)

theorem evalNode_keeps {ev : Evaluator} {node : Node} (h : R.InOrder world)
    (hev : R.contract.Evaluates ev world.trace) (hnode : node.Obeys R.fragment) :
    R.contract.Keeps (R.raised world.trace) R.contract.Holds world
      (Interpreter.evalNode ev World.root node) :=
  hR.contract_sound.catchReturn_keeps (hev.node ⟨h, rfl⟩ (.inl h.root) hnode)

theorem eval_keeps {ev : Evaluator} {form : Form} (h : R.InOrder world)
    (hev : R.contract.Evaluates ev world.trace) (hform : form.Holds R.fragment.Leaf) :
    R.contract.Keeps (fun _ => True) R.contract.Holds world (Interpreter.eval ev form) := by
  refine hR.contract_sound.keeps_bind (compile_keeps hR h hform) ?_
  intro node after hnext hnode
  rw [← hnext.trace] at hev
  exact (evalNode_keeps hR hnext.world hev hnode).error fun _ _ => trivial

end Regime

/-! ## Moves -/

inductive Move where
  | evaluation (routine : Routine)
  | compile (form : Form)
  | compileDirect (form : Form)
  | compileParameters (forms : List Form)
  | defer (node : Node) (scope : FrameId)
  | newRoot (missing : MissingPolicy)
  | newChild (parent : FrameId)
  | define (scope : FrameId) (name : String) (v : Value)
  | setLocal (scope : FrameId) (name : String) (v : Value)
  | update (discipline : Discipline) (scope : FrameId) (name : String) (v : Value)
  | remove (scope : FrameId) (name : String)
  | setProperty (scope : FrameId) (name key : String) (v : Value)
  | defineFunction (name : String) (ref : FunctionRef)
  | registerForm (name doc : String) (accept : List Form → Position → Except Failure HostAction)
  | registerExpression (name doc : String) (accept : Nat → Position → Except Failure HostAction)
  | registerNative (name : String) (parameters : List String) (doc : String)
      (run : Backtrace → List Value → HostAction)

namespace Move

def perform (ev : Evaluator) : Move → Eval Unit
  | evaluation routine => routine.run ev
  | compile form => do let _ ← Interpreter.compile form
  | compileDirect form => do let _ ← Interpreter.compileDirect form
  | compileParameters forms => do let _ ← Interpreter.compileParameters forms
  | defer node scope => modify fun world => (world.addThunk node scope).2
  | newRoot missing => modify fun world => (world.addFrame (.root missing)).2
  | newChild parent => modify fun world => (world.addChild parent).2
  | define scope name v => Eval.define scope name v
  | setLocal scope name v => Eval.setLocal scope name v
  | update discipline scope name v => modify fun world => world.update discipline scope name v
  | remove scope name => modify fun world => (world.remove scope name).2
  | setProperty scope name key v => modify fun world => world.setProperty scope name key v
  | defineFunction name ref => Interpreter.defineFunction name ref
  | registerForm name doc accept => Interpreter.registerForm name doc accept
  | registerExpression name doc accept => Interpreter.registerExpression name doc accept
  | registerNative name parameters doc run => Interpreter.registerNative name parameters doc run

end Move

namespace Regime

def RoutineAllowed (R : Regime) : Routine → Prop
  | .evaluate _ node => node.Obeys R.fragment
  | .invoke _ callable arguments =>
      R.CallableAllowed callable ∧ arguments.All (Node.Obeys R.fragment)
  | .call _ arguments => ∀ v ∈ arguments, R.value v
  | .frame _ _ arguments => arguments.All (Node.Obeys R.fragment)
  | .values _ bounds => ∀ bound ∈ bounds, ∀ node ∈ bound.nodes, node.Obeys R.fragment
  | .force _ => True

def MoveAllowed (R : Regime) : Move → Prop
  | .evaluation routine => R.RoutineAllowed routine
  | .compile form | .compileDirect form => form.Holds R.fragment.Leaf
  | .compileParameters forms => ∀ form ∈ forms, form.Holds R.fragment.Leaf
  | .defer node _ => node.Obeys R.fragment
  | .define _ _ v | .setLocal _ _ v | .update _ _ _ v => R.value v
  | .registerForm _ _ accept =>
      ∀ forms position action, accept forms position = .ok action → R.fragment.host action
  | .registerExpression _ _ accept =>
      ∀ count position action, accept count position = .ok action → R.fragment.host action
  | .registerNative _ _ _ run => R.hosted ∧ ∀ trace arguments, (∀ v ∈ arguments, R.value v) →
      (run trace arguments).Keeps R.value (R.failure trace)
  | .newRoot _ | .newChild _ | .remove _ _ | .setProperty _ _ _ _ | .defineFunction _ _ => True

variable {R : Regime} {world : World}

theorem InOrder.remove (h : R.InOrder world) (id : FrameId) (name : String) :
    R.contract.Next world (world.remove id name).2 := by
  rw [World.remove_snd]
  generalize world.chain id = frames
  induction frames generalizing world with
  | nil => exact ⟨h, rfl, fun _ hid => hid⟩
  | cons frame frames ih =>
      obtain ⟨horder, hkeep⟩ := h.modifyFrame frame (fun _ hframe => hframe.remove name)
        fun _ => rfl
      have hrest := ih horder
      exact ⟨hrest.world, hrest.trace, fun id hid => hrest.change id (hkeep id hid)⟩

theorem InOrder.setProperty (h : R.InOrder world) (id : FrameId) (name key : String) (v : Value) :
    R.contract.Next world (world.setProperty id name key v) := by
  have hset : ∀ frame : Frame, frame.Holds R.value →
      (frame.setProperty name key v).Holds R.value :=
    fun _ hframe => ⟨hframe.locals, hframe.slots⟩
  obtain ⟨horder, hkeep⟩ := h.modifyFrame ((world.propertyOwner? id name).getD id) hset
    fun _ => rfl
  exact ⟨horder, rfl, hkeep⟩

section Strict

variable (hR : R.Lawful) (hstrict : ¬R.loose)

include hstrict

theorem usable_of_strict (world : World) (id : FrameId) : R.Usable world id :=
  fun hloose => absurd hloose hstrict

theorem RoutineAllowed.meets {routine : Routine} (h : R.RoutineAllowed routine) (world : World) :
    routine.Meets R.contract world := by
  have husable := usable_of_strict hstrict world
  cases routine with
  | evaluate scope node => exact ⟨.inl (husable scope), h⟩
  | invoke caller callable arguments =>
      exact ⟨husable caller, h.1.function fun closure _ => husable closure.scope, h.2, trivial⟩
  | call callee arguments => exact h
  | frame caller defining arguments => exact ⟨husable caller, husable defining, h, trivial⟩
  | values caller bounds => exact ⟨husable caller, h⟩
  | force thunk => trivial

include hR

omit hstrict in
theorem registerNative_keeps (h : R.InOrder world) (name : String) (parameters : List String)
    (doc : String) {run : Backtrace → List Value → HostAction} (hosted : R.hosted)
    (hrun : ∀ trace arguments, (∀ v ∈ arguments, R.value v) →
      (run trace arguments).Keeps R.value (R.failure trace)) :
    R.contract.Keeps (fun _ => True) (fun _ _ => True) world
      (Interpreter.registerNative name parameters doc run) := by
  have hC := hR.contract_sound
  have hread := LambdaReader.parse_reads (N := Node.Obeys R.fragment) parameters
  unfold Interpreter.registerNative
  cases hspec : (LambdaList.parse parameters : Except Cause (LambdaList Node)) with
  | error cause => exact hC.keeps_failed h trivial
  | ok spec =>
      rw [hspec] at hread
      refine hC.keeps_bind (Q := fun _ other => spec = other) (hC.keeps_pure h rfl) ?_
      rintro _ after hnext rfl
      have horder : R.InOrder after := hnext.world
      split
      · exact hC.keeps_failed horder trivial
      · have hallowed : R.CallableAllowed (.native
            ⟨Text.canonical name, spec, some doc, .host run⟩) := ⟨hread, hosted, hrun⟩
        have hnative := horder.addNative name doc hallowed
        exact Contract.Sound.keeps_modify (Lawful.next_of_frames_eq hnative rfl rfl) trivial

theorem perform_keeps {ev : Evaluator} (hev : R.contract.Evaluates ev world.trace)
    (h : R.InOrder world) {move : Move} (hmove : R.MoveAllowed move) :
    R.contract.Keeps (fun _ => True) (fun _ _ => True) world (move.perform ev) := by
  have hC := hR.contract_sound
  have hmodify {change : World → World} (hnext : R.contract.Next world (change world)) :
      R.contract.Keeps (fun _ => True) (fun _ _ => True) world (modify change) :=
    Contract.Sound.keeps_modify hnext trivial
  have husable := usable_of_strict hstrict world
  cases move with
  | evaluation routine =>
      exact (hC.routine_keeps hev h (hmove.meets hstrict world)).error fun _ _ => trivial
  | compile form => exact hC.keeps_discard (compile_keeps hR h hmove)
  | compileDirect form =>
      exact hC.keeps_discard (compiling_keeps h
        ((compilable_of_leaves hR.inherited _).compileForm_gives h.table hmove))
  | compileParameters forms =>
      have hforms := (compilable_of_leaves hR.inherited world.defs).compiles_form h.table
      exact hC.keeps_discard (compiling_keeps h (hforms.lambdaList_gives hmove))
  | defer node scope => exact hmodify (hC.addThunk h hmove (husable scope))
  | newRoot missing =>
      have hholds := Frame.Holds.empty (V := R.value) none missing
      exact hmodify (Lawful.next_addFrame h ⟨.inr hholds, by simp⟩ hholds).1
  | newChild parent => exact hmodify (hC.addChild h (husable parent)).1
  | define scope name v =>
      exact (hC.define_keeps ⟨h, rfl⟩ (husable scope) name hmove).error fun _ _ => trivial
  | setLocal scope name v => exact hC.setLocal_keeps ⟨h, rfl⟩ (husable scope) name hmove
  | update discipline scope name v =>
      cases discipline with
      | global => exact hmodify (Lawful.next_setLocal _ name h hmove)
      | nearest => exact hmodify (Lawful.next_setLocal _ name h hmove)
  | remove scope name => exact hmodify (h.remove scope name)
  | setProperty scope name key v => exact hmodify (h.setProperty scope name key v)
  | defineFunction name ref =>
      refine hmodify (Lawful.next_of_frames_eq (h.install name ?_) rfl rfl)
      trivial
  | registerForm name doc accept =>
      refine hmodify (Lawful.next_of_frames_eq (h.install name ?_) rfl rfl)
      exact fun forms position => ⟨hmove forms position, fun _ _ => trivial⟩
  | registerExpression name doc accept =>
      refine hmodify (Lawful.next_of_frames_eq (h.install name ?_) rfl rfl)
      exact fun count position => ⟨hmove count position, fun _ _ => trivial⟩
  | registerNative name parameters doc run =>
      exact registerNative_keeps hR h name parameters doc hmove.1 hmove.2

end Strict

end Regime

/-! ## Reachable worlds -/

def Eval.worldAfter {α : Type} : EStateM.Result Signal World α → World
  | .ok _ after => after
  | .error _ after => after

namespace Contract.Keeps

open Eval

variable {C : Contract} {α : Type} {E : Failure → Prop} {Q : World → α → Prop} {world : World}
  {action : Eval α} (h : C.Keeps E Q world action)

include h

theorem next (hfinished : ∀ after, action world ≠ .error .exhausted after) :
    C.Next world (worldAfter (action world)) := by
  unfold Contract.Keeps at h
  cases hrun : action world with
  | ok a after =>
      rw [hrun] at h
      exact h.1
  | error signal after =>
      rw [hrun] at h
      cases signal with
      | failed failure => exact h.1
      | returned v => exact h.1
      | exhausted => exact absurd hrun (hfinished after)

theorem world_after (hhalted : ∀ now, C.halted now → C.world now) :
    C.world (worldAfter (action world)) := by
  unfold Contract.Keeps at h
  cases hrun : action world with
  | ok a after =>
      rw [hrun] at h
      exact h.1.world
  | error signal after =>
      rw [hrun] at h
      cases signal with
      | failed failure => exact h.1.world
      | returned v => exact h.1.world
      | exhausted => exact hhalted after h

theorem ok {a : α} {after : World} (hrun : action world = .ok a after) :
    C.Next world after ∧ Q after a := by
  unfold Contract.Keeps at h
  rw [hrun] at h
  exact h

theorem failed {failure : Failure} {after : World}
    (hrun : action world = .error (.failed failure) after) : E failure := by
  unfold Contract.Keeps at h
  rw [hrun] at h
  exact h.2

end Contract.Keeps

namespace Regime

/-- The worlds that allowed moves lead to, or go through, from the start. -/
inductive Reachable (R : Regime) (missing : MissingPolicy) : World → Prop where
  | start : Reachable R missing (.initial missing)
  | move {world : World} (move : Move) (trace : Backtrace) (halt : World → Bool) (fuel : Nat)
      (reached : Reachable R missing world) (allowed : R.MoveAllowed move)
      (fits : trace.size ≤ R.limit) :
      Reachable R missing (Eval.worldAfter
        (move.perform (Eval.evaluatorUntil halt R.limit fuel) { world with trace }))

variable {R : Regime}

theorem Lawful.evaluates (hR : R.Lawful) (hstop : R.mayStop) (halt : World → Bool) (fuel : Nat)
    (trace : Backtrace) :
    R.contract.Evaluates (Eval.evaluatorUntil halt R.limit fuel) trace := by
  have hhalt : ∀ world, halt world = true → R.InOrder world → R.mayStop ∧ R.InOrder world :=
    fun _ _ horder => ⟨hstop, horder⟩
  exact hR.contract_sound.evaluatorUntil_evaluates hhalt (.inl hstop)

theorem Reachable.inOrder (hR : R.Lawful) (hstrict : ¬R.loose) (hstop : R.mayStop)
    {missing : MissingPolicy} {world : World} (h : R.Reachable missing world) :
    R.InOrder world := by
  induction h with
  | start => exact initial_inOrder missing
  | move move trace halt fuel reached allowed fits ih =>
      exact (perform_keeps hR hstrict (hR.evaluates hstop halt fuel trace)
        (ih.withTrace fits) allowed).world_after fun _ hhalted => hhalted.2

end Regime

/-! ## Programs -/

namespace Interpreter

inductive Reached (settings : Settings) (P : Form → Prop) : Interpreter → Prop where
  | start : Reached settings P (.new settings)
  | eval {interpreter : Interpreter} {form : Form} (fuel : Nat)
      (reached : Reached settings P interpreter) (sort : P form)
      (finished : (interpreter.run (eval (interpreter.evaluator fuel) form)).1 ≠
        .error .exhausted) :
      Reached settings P (interpreter.run (eval (interpreter.evaluator fuel) form)).2

variable {R : Regime} {settings : Settings} {P : Form → Prop} {interpreter : Interpreter}

theorem run_settings {α : Type} (action : Eval α) :
    (interpreter.run action).2.settings = interpreter.settings := by
  unfold Interpreter.run
  split
  · rfl
  · rfl

theorem run_world {α : Type} (action : Eval α) :
    (interpreter.run action).2.world =
      Eval.worldAfter (action { interpreter.world with trace := .empty }) := by
  unfold Interpreter.run
  cases action { interpreter.world with trace := .empty } with
  | ok a after => rfl
  | error signal after => rfl

theorem run_ok {α : Type} {action : Eval α} {a : α} (h : (interpreter.run action).1 = .ok a) :
    ∃ after, action { interpreter.world with trace := .empty } = .ok a after := by
  unfold Interpreter.run at h
  cases hrun : action { interpreter.world with trace := .empty } with
  | ok b after =>
      rw [hrun] at h
      cases h
      exact ⟨after, rfl⟩
  | error signal after =>
      rw [hrun] at h
      cases h

theorem run_error {α : Type} {action : Eval α} {signal : Signal}
    (h : (interpreter.run action).1 = .error signal) :
    ∃ after, action { interpreter.world with trace := .empty } = .error signal after := by
  unfold Interpreter.run at h
  cases hrun : action { interpreter.world with trace := .empty } with
  | ok a after =>
      rw [hrun] at h
      cases h
  | error found after =>
      rw [hrun] at h
      cases h
      exact ⟨after, rfl⟩

theorem Reached.maxDepth (h : Reached settings P interpreter) :
    interpreter.settings.maxDepth = settings.maxDepth := by
  induction h with
  | start => rfl
  | eval fuel reached sort finished ih => rw [run_settings, ih]

theorem run_keeps (hR : R.Lawful) (h : R.InOrder interpreter.world)
    {fuel : Nat} (hev : R.contract.Evaluates (Eval.evaluator R.limit fuel) .empty)
    (hlimit : interpreter.settings.maxDepth = R.limit) {form : Form}
    (hform : form.Holds R.fragment.Leaf) :
    R.contract.Keeps (fun _ => True) R.contract.Holds { interpreter.world with trace := .empty }
      (eval (interpreter.evaluator fuel) form) := by
  unfold Interpreter.evaluator
  rw [hlimit]
  exact Regime.eval_keeps hR (h.withTrace (Nat.zero_le _)) hev hform

theorem Reached.inOrder (hR : R.Lawful) (hstop : R.mayStop)
    (hlimit : R.limit = settings.maxDepth) (hP : ∀ form, P form → form.Holds R.fragment.Leaf)
    (h : Reached settings P interpreter) : R.InOrder interpreter.world := by
  induction h with
  | start => exact Regime.initial_inOrder _
  | @eval interpreter form fuel reached sort finished ih =>
      have hev := hR.evaluates hstop Eval.never fuel .empty
      rw [Eval.evaluatorUntil_never] at hev
      have hkeeps := run_keeps hR ih hev (reached.maxDepth.trans hlimit.symm) (hP form sort)
      rw [run_world]
      exact hkeeps.world_after fun _ hhalted => hhalted.2

end Interpreter

end LispEngine
