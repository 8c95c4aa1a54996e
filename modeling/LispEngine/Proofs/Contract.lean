import LispEngine.Proofs.Binding
import LispEngine.Proofs.Handlers

/-!
# Contracts

A contract says what holds of the worlds, values, nodes and failures that evaluations go through,
and how evaluations may change a world. It is sound when each of the few operations that evaluations
are made of keeps to it. That all evaluations then keep to it is proved once for all contracts, in
`LispEngine.Proofs.Evaluation`.
-/

namespace LispEngine

/-- The embedding program hands over values and raises failures of the given sorts only, as long as
it is handed such values itself. -/
def HostAction.Keeps (V : Value → Prop) (E : Failure → Prop) : HostAction → Prop
  | .yield v => V v
  | .fail failure => E failure
  | .leave v => V v
  | .call _ arguments next => (∀ v ∈ arguments, V v) ∧ ∀ v, V v → (next v).Keeps V E
  | .evaluate _ next => ∀ v, V v → (next v).Keeps V E

theorem HostAction.Keeps.of_forall {V : Value → Prop} {E : Failure → Prop} (hV : ∀ v, V v)
    (hE : ∀ failure, E failure) (action : HostAction) : action.Keeps V E := by
  induction action with
  | yield v => exact hV v
  | fail failure => exact hE failure
  | leave v => exact hV v
  | call callee arguments next ih => exact ⟨fun v _ => hV v, fun v _ => ih v⟩
  | evaluate index next ih => exact fun v _ => ih v

def World.entered (world : World) (call : Call) : World :=
  { world with trace := world.trace.push call }

def World.back (world before : World) : World := { world with trace := before.trace }

def FormOf.parts? : BuiltIn → Option (LambdaParts Node)
  | lambda parts => some parts
  | defun _ parts => some parts
  | _ => none

/-- The arguments that a call site remembers were bound by the lambda list of the function that it
called. -/
def CachedCall.BoundIn (call : CachedCall) (world : World) : Prop :=
  ∃ callable nodes, world.defs.functions[call.callee]? = some callable ∧
    bindArguments callable.spec nodes = .ok call.arguments

structure Contract where
  limit : Nat
  /-- What holds between any two operations. -/
  world : World → Prop
  /-- What an evaluation does to a world. -/
  change : World → World → Prop
  /-- The frames that names are looked up in and that closures keep. -/
  scope : World → FrameId → Prop
  /-- The frames that the evaluation has made itself. -/
  own : World → FrameId → Prop
  /-- The frames in which the evaluation of a node may be asked for. -/
  enter : World → FrameId → Prop
  value : Value → Prop
  node : Node → Prop
  /-- The failures that leave the code of a node, under the backtrace of that code. -/
  failure : Backtrace → Failure → Prop
  /-- The failures that leave a node, under the backtrace before the node was entered. -/
  raised : Backtrace → Failure → Prop
  /-- Whether the embedding program takes part. -/
  hosted : Prop
  /-- The worlds in which an evaluation may be cut off. -/
  halted : World → Prop
  /-- The numbers of steps that evaluations under a backtrace may be given. -/
  fuelled : Nat → Backtrace → Prop
  /-- The lambda lists of functions, and of the frames of their calls. -/
  spec : LambdaList Node → Prop := fun _ => True
  /-- The values that a node gives when it is asked for in a frame of a world. -/
  result : World → FrameId → Node → Value → Prop := fun _ _ _ _ => True

namespace Contract

variable {α β : Type} (C : Contract)

structure Next (before after : World) : Prop where
  world : C.world after
  trace : after.trace = before.trace
  change : C.change before after

structure At (backtrace : Backtrace) (now : World) : Prop where
  world : C.world now
  trace : now.trace = backtrace

def Function (world : World) : Callable → Prop
  | .closure closure =>
      (∀ node ∈ closure.parts.children, C.node node) ∧ C.scope world closure.scope
  | .native native =>
      (∀ node ∈ LambdaParts.defaults native.spec, C.node node) ∧
        match native.code with
        | .primitive _ => True
        | .host run =>
            C.hosted ∧ ∀ arguments, (∀ v ∈ arguments, C.value v) →
              (run world.trace arguments).Keeps C.value (C.failure world.trace)

variable {C} in
theorem function_of_nodes {world : World} {callable : Callable}
    (hnodes : ∀ node ∈ callable.nodes, C.node node)
    (hscope : ∀ closure, callable = .closure closure → C.scope world closure.scope)
    (hosted : C.hosted) (hvalue : ∀ v, C.value v)
    (hfailure : ∀ trace failure, C.failure trace failure) : C.Function world callable := by
  cases callable with
  | closure closure => exact ⟨hnodes, hscope closure rfl⟩
  | native native =>
      refine ⟨hnodes, ?_⟩
      cases native.code with
      | primitive primitive => trivial
      | host run => exact ⟨hosted, fun _ _ => .of_forall hvalue (hfailure world.trace) _⟩

def Arguments (arguments : BoundArguments) : Prop := arguments.All C.node ∧ C.spec arguments.spec

def Content : Slot → Prop
  | .ready v => C.value v
  | _ => True

def Outcome (E : Failure → Prop) (Q : World → α → Prop) (world : World) :
    EStateM.Result Signal World α → Prop
  | .ok a after => C.Next world after ∧ Q after a
  | .error (.failed failure) after => C.Next world after ∧ E failure
  | .error (.returned v) after => C.Next world after ∧ C.value v
  | .error .exhausted after => C.halted after

def Keeps (E : Failure → Prop) (Q : World → α → Prop) (world : World) (action : Eval α) : Prop :=
  C.Outcome E Q world (action world)

def Holds (_ : World) (v : Value) : Prop := C.value v

structure Evaluates (ev : Evaluator) (trace : Backtrace) : Prop where
  node {world : World} {scope : FrameId} {node : Node} (h : C.At trace world)
    (hscope : C.enter world scope) (hnode : C.node node) :
    C.Keeps (C.raised trace) C.Holds world (ev.node scope node)
  call (hosted : C.hosted) {world : World} {arguments : List Value} (h : C.At trace world)
    (hvalues : ∀ v ∈ arguments, C.value v) (ref : FunctionRef) :
    C.Keeps (C.failure trace) C.Holds world (ev.call ref arguments)
  result {world after : World} {scope : FrameId} {node : Node} {v : Value} :
    ev.node scope node world = .ok v after → C.result world scope node v

/-- The operations that evaluations are made of keep to the contract. What a contract asks nothing
about holds by itself. -/
structure Sound (C : Contract) : Prop where
  refl (world : World) : C.change world world := by intros; trivial
  trans {u v w : World} : C.change u v → C.change v w → C.change u w := by intros; trivial
  scope_mono {before after : World} {id : FrameId} :
    C.change before after → C.scope before id → C.scope after id := by intros; trivial
  own_mono {before after : World} {id : FrameId} :
    C.change before after → C.own before id → C.own after id := by intros; trivial
  enter_mono {before after : World} {id : FrameId} :
    C.Next before after → C.enter before id → C.enter after id := by intros; trivial
  own_scope {world : World} {id : FrameId} : C.own world id → C.scope world id := by intros; trivial
  scope_enter {world : World} {id : FrameId} : C.scope world id → C.enter world id := by
      intros; trivial
  inherited : Inherited C.value := by exact inherited_true
  -- failures
  plain {trace : Backtrace} {cause : Cause} : cause.Plain → C.failure trace (.of cause) := by
      intros; trivial
  thrown {trace : Backtrace} {kind : ErrorKind} {message : String} {v : Value} :
    C.value v → C.failure trace (.of (.thrown kind message (some v))) := by intros; trivial
  rethrown {trace : Backtrace} {id : Nat} {failure : Failure} :
    C.value (.error id failure) → C.failure trace failure := by intros; trivial
  leaving {trace : Backtrace} {failure : Failure} :
    C.raised trace failure → C.failure trace failure := by intros; trivial
  -- nodes
  child {node child : Node} : C.node node → child ∈ node.code.children → C.node child := by
      intros; trivial
  constant {node : Node} {v : Value} : C.node node → node.constant? = some v → C.value v := by
      intros; trivial
  ofValue {v : Value} : C.value v → C.node (.ofValue v none) := by intros; trivial
  unset {node : Node} (trace : Backtrace) :
    C.node node → node.code = .form .empty → C.failure trace (.of .parametersUnset) := by
      intros; trivial
  loop {node test : Node} {body : List Node} {world : World} :
    C.node node → node.code = .ofForm (.whileLoop test body) → C.world world → C.halted world := by
      intros; trivial
  host {node : Node} {parameters : List Node} {action : HostAction} (trace : Backtrace) :
    C.node node → node.code = .host parameters action →
      C.hosted ∧ action.Keeps C.value (C.failure trace) := by
        intros; exact ⟨trivial, .of_forall (fun _ => trivial) (fun _ => trivial) _⟩
  parts {node : Node} {form : BuiltIn} {parts : LambdaParts Node} :
    C.node node → node.code = .ofForm form → form.parts? = some parts → C.spec parts.spec := by
      intros; trivial
  -- frames
  root {world : World} : C.world world → C.scope world World.root := by intros; trivial
  find {world : World} {id : FrameId} {name : String} {v : Value} :
    C.world world → C.scope world id → world.find? id name = some (.value v) → C.value v := by
      intros; trivial
  addChild {world : World} {parent : FrameId} : C.world world → C.scope world parent →
    C.Next world (world.addChild parent).2 ∧
      C.own (world.addChild parent).2 (world.addChild parent).1
  addCallFrame {world : World} {parent : FrameId} (spec : LambdaList Node) :
    C.world world → C.scope world parent → C.spec spec →
      C.Next world (world.addCallFrame parent spec).2 ∧
        C.own (world.addCallFrame parent spec).2 (world.addCallFrame parent spec).1
  addHandler {world : World} {scope : FrameId} (name : String) {failure : Failure} :
    C.world world → C.scope world scope → C.raised world.trace failure →
      C.Next world (world.addHandler scope name failure).2 ∧
        C.enter (world.addHandler scope name failure).2 (world.addHandler scope name failure).1
  setLocal {world : World} {id : FrameId} (name : String) {v : Value} :
    C.world world → C.own world id → C.value v → C.Next world (world.setLocal id name v)
  fillSlot {world : World} {id : FrameId} (index : Nat) {slot : Slot} (supplied : Bool) :
    C.world world → C.own world id → C.Content slot →
      C.Next world (world.modifyFrame id (·.fillSlot index slot supplied))
  update {world : World} {id : FrameId} {node : Node} {discipline : Discipline}
    {pairs : List (String × Node)} (name : String) {v : Value} :
    C.node node → node.code = .ofForm (.assign discipline pairs) → C.world world →
      C.scope world id → C.value v → C.Next world (world.update discipline id name v)
  -- deferred arguments
  addThunk {world : World} {node : Node} {scope : FrameId} :
    C.world world → C.node node → C.scope world scope →
      C.Next world (world.addThunk node scope).2
  done {world : World} {id : ThunkId} {v : Value} :
    C.world world → world.thunks[id.index]? = some (.done v) → C.value v := by intros; trivial
  pending {world : World} {id : ThunkId} {node : Node} {scope : FrameId} :
    C.world world → world.thunks[id.index]? = some (.pending node scope) →
      C.node node ∧ C.world (world.setThunk id .forcing) ∧
        C.enter (world.setThunk id .forcing) scope
  settle {world after : World} {id : ThunkId} {node : Node} {scope : FrameId} {v : Value} :
    C.world world → world.thunks[id.index]? = some (.pending node scope) →
      C.Next (world.setThunk id .forcing) after → C.value v →
        C.result (world.setThunk id .forcing) scope node v →
          C.Next world (after.setThunk id (.done v))
  restore {world after : World} {id : ThunkId} {node : Node} {scope : FrameId} :
    C.world world → world.thunks[id.index]? = some (.pending node scope) →
      C.Next (world.setThunk id .forcing) after →
        C.Next world (after.setThunk id (.pending node scope))
  -- functions and call sites
  close {world : World} {scope : FrameId} (name : Option String) {parts : LambdaParts Node} :
    C.world world → C.scope world scope → (∀ node ∈ parts.children, C.node node) →
      C.spec parts.spec → C.Next world
        { world with defs := (world.defs.addFunction (.closure ⟨name, parts, scope⟩)).2 }
  defineFunction {world : World} {node : Node} {name : String} {parts : LambdaParts Node}
    (ref : FunctionRef) : C.node node → node.code = .ofForm (.defun name parts) → C.world world →
      C.Next world { world with defs := world.defs.defineFunction name ref }
  function {world : World} {ref : FunctionRef} {callable : Callable} :
    C.world world → world.defs.function? ref = some callable → C.Function world callable
  functionSpec {world : World} {ref : FunctionRef} {callable : Callable} :
    C.world world → world.defs.function? ref = some callable → C.spec callable.spec := by
      intros; trivial
  cached {world : World} {site : Nat} {call : CachedCall} :
    C.world world → world.cached? site = some call → call.arguments.All C.node
  cachedSpec {world : World} {site : Nat} {call : CachedCall} :
    C.world world → world.cached? site = some call → C.spec call.arguments.spec := by
      intros; trivial
  remember {world : World} (site : Nat) {call : CachedCall} :
    C.world world → call.arguments.All C.node → call.BoundIn world →
      C.Next world (world.remember site call)
  -- entering and leaving a node
  full {world : World} : C.world world → world.trace.isFull C.limit = true →
    C.raised world.trace (Eval.depthFailure C.limit world.trace) := by intros; trivial
  entered {world : World} {scope : FrameId} (call : Call) :
    C.world world → world.trace.isFull C.limit = false → C.enter world scope →
      C.world (world.entered call) ∧ C.scope (world.entered call) scope
  left {world after : World} {call : Call} :
    C.world world → world.trace.isFull C.limit = false → C.Next (world.entered call) after →
      C.Next world (after.back world)
  annotated {world : World} {node : Node} (scope : FrameId) {failure : Failure} :
    C.world world → world.trace.isFull C.limit = false → C.node node → node.constant? = none →
      C.failure (world.trace.push ⟨node.name, node.position, scope⟩) failure →
        C.raised world.trace
          (failure.annotate node.position
            (world.trace.push ⟨node.name, node.position, scope⟩)) := by intros; trivial
  -- the allotted steps
  spent {world : World} : C.world world → C.fuelled 0 world.trace → C.halted world := by
      intros; trivial
  fuel {trace : Backtrace} {fuel : Nat} (call : Call) :
    C.fuelled (fuel + 1) trace → trace.isFull C.limit = false →
      C.fuelled fuel (trace.push call) := by
      intros; trivial
  hostFuel {trace : Backtrace} {fuel : Nat} :
    C.hosted → C.fuelled (fuel + 1) trace → C.fuelled fuel trace := by intros; trivial

/-! ## Rules for actions -/

variable {C} {E E' : Failure → Prop} {Q : World → α → Prop} {R : World → β → Prop}
  {world after : World}

def Ending (C : Contract) (E : Failure → Prop) (Q : World → α → Prop) (world : World) :
    Except Signal α → Prop
  | .ok a => Q world a
  | .error (.failed failure) => E failure
  | .error (.returned v) => C.value v
  | .error .exhausted => False

theorem Next.at {trace : Backtrace} (hnext : C.Next world after) (h : C.At trace world) :
    C.At trace after :=
  ⟨hnext.world, hnext.trace.trans h.trace⟩

theorem Outcome.mono {result : EStateM.Result Signal World α} {Q' : World → α → Prop}
    (h : C.Outcome E Q world result) (hE : ∀ failure, E failure → E' failure)
    (hQ : ∀ after a, Q after a → Q' after a) : C.Outcome E' Q' world result := by
  cases result with
  | ok a after => exact ⟨h.1, hQ after a h.2⟩
  | error signal after =>
      cases signal with
      | failed failure => exact ⟨h.1, hE failure h.2⟩
      | returned v => exact h
      | exhausted => exact h

theorem Keeps.error {action : Eval α} (h : C.Keeps E Q world action)
    (hE : ∀ failure, E failure → E' failure) : C.Keeps E' Q world action :=
  Outcome.mono h hE fun _ _ hq => hq

namespace Sound

variable (hC : C.Sound)

include hC

theorem next_refl (hw : C.world world) : C.Next world world := ⟨hw, rfl, hC.refl world⟩

theorem next_trans {first last : World} (h : C.Next first world) (h' : C.Next world last) :
    C.Next first last :=
  ⟨h'.world, h'.trace.trans h.trace, hC.trans h.change h'.change⟩

theorem keeps_pure {a : α} (hw : C.world world) (hq : Q world a) :
    C.Keeps E Q world (pure a) :=
  ⟨hC.next_refl hw, hq⟩

theorem keeps_failed {failure : Failure} (hw : C.world world) (h : E failure) :
    C.Keeps E Q world (throw (.failed failure)) :=
  ⟨hC.next_refl hw, h⟩

theorem keeps_returned {v : Value} (hw : C.world world) (hv : C.value v) :
    C.Keeps E Q world (throw (.returned v)) :=
  ⟨hC.next_refl hw, hv⟩

theorem outcome_trans {result : EStateM.Result Signal World α} (h : C.Next world after)
    (hresult : C.Outcome E Q after result) : C.Outcome E Q world result := by
  cases result with
  | ok a last => exact ⟨hC.next_trans h hresult.1, hresult.2⟩
  | error signal last =>
      cases signal with
      | failed failure => exact ⟨hC.next_trans h hresult.1, hresult.2⟩
      | returned v => exact ⟨hC.next_trans h hresult.1, hresult.2⟩
      | exhausted => exact hresult

theorem keeps_bind {action : Eval α} {next : α → Eval β} (h : C.Keeps E Q world action)
    (hnext : ∀ a after, C.Next world after → Q after a → C.Keeps E R after (next a)) :
    C.Keeps E R world (action >>= next) := by
  unfold Keeps at h ⊢
  change C.Outcome E R world (EStateM.bind action next world)
  unfold EStateM.bind
  cases hrun : action world with
  | ok a after =>
      rw [hrun] at h
      exact hC.outcome_trans h.1 (hnext a after h.1 h.2)
  | error signal after =>
      rw [hrun] at h
      cases signal with
      | failed failure => exact h
      | returned v => exact h
      | exhausted => exact h

theorem keeps_discard {action : Eval α} (h : C.Keeps E Q world action) :
    C.Keeps E (fun _ _ => True) world (do let _ ← action) :=
  hC.keeps_bind h fun _ _ hnext _ => hC.keeps_pure hnext.world trivial

omit hC in
theorem keeps_get {next : World → Eval β} (h : C.Keeps E R world (next world)) :
    C.Keeps E R world (get >>= next) :=
  h

omit hC in
theorem keeps_modify {S : World → Unit → Prop} {change : World → World}
    (h : C.Next world (change world)) (hq : S (change world) ()) :
    C.Keeps E S world (modify change) :=
  ⟨h, hq⟩

omit hC in
theorem keeps_modifyGet {change : World → α × World} (h : C.Next world (change world).2)
    (hq : Q (change world).2 (change world).1) : C.Keeps E Q world (modifyGet change) :=
  ⟨h, hq⟩

omit hC in
theorem keeps_observe {action : Eval α} (h : C.Keeps E Q world action) :
    C.Keeps E' (C.Ending E Q) world (Eval.observe action) := by
  unfold Keeps at h ⊢
  unfold Eval.observe
  cases hrun : action world with
  | ok a after =>
      rw [hrun] at h
      exact h
  | error signal after =>
      rw [hrun] at h
      cases signal with
      | failed failure => exact h
      | returned v => exact h
      | exhausted => exact h

theorem keeps_resume {ending : Except Signal α} (hw : C.world world)
    (h : C.Ending E Q world ending) : C.Keeps E Q world (Eval.resume ending) := by
  cases ending with
  | ok a => exact hC.keeps_pure hw h
  | error signal =>
      cases signal with
      | failed failure => exact hC.keeps_failed hw h
      | returned v => exact hC.keeps_returned hw h
      | exhausted => exact h.elim

theorem keeps_fail {trace : Backtrace} {cause : Cause} (hw : C.world world) (h : cause.Plain) :
    C.Keeps (C.failure trace) Q world (Eval.fail cause) :=
  hC.keeps_failed hw (hC.plain h)

theorem keeps_ofExcept {trace : Backtrace} {P : α → Prop} {result : Except Cause α}
    (hw : C.world world) (h : Plainly P result) (hq : ∀ a, P a → Q world a) :
    C.Keeps (C.failure trace) Q world (Eval.ofExcept result) := by
  cases result with
  | ok a => exact hC.keeps_pure hw (hq a h)
  | error cause => exact hC.keeps_fail hw h.toPlain

end Sound

end Contract

end LispEngine
