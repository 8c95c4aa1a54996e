import LispEngine.Proofs.Handlers

/-!
# Evaluations that are cut off

An evaluator refines another one if it does the same, except that it may be cut off in some worlds.
All actions of the engine then refine each other in that way. In particular more steps change no
outcome: an evaluator that is given fewer steps than another one ends in the same way, or is cut
off.
-/

namespace LispEngine

namespace Eval

variable {α β : Type} {P : World → Prop}

/-- Two actions do the same, except that the first may be cut off in some worlds. -/
def Refines (P : World → Prop) (first second : Eval α) : Prop :=
  ∀ world, first world = second world ∨ ∃ after, first world = .error .exhausted after ∧ P after

namespace Refines

theorem refl (action : Eval α) : Refines P action action := fun _ => .inl rfl

theorem exhausted (action : Eval α) (hcut : ∀ world, P world) :
    Refines P (throw .exhausted) action :=
  fun world => .inr ⟨world, rfl, hcut world⟩

theorem bind {a b : Eval α} {f g : α → Eval β} (h : Refines P a b)
    (hrest : ∀ x, Refines P (f x) (g x)) : Refines P (a >>= f) (b >>= g) := by
  intro world
  change EStateM.bind a f world = EStateM.bind b g world ∨
    ∃ after, EStateM.bind a f world = .error .exhausted after ∧ P after
  unfold EStateM.bind
  rcases h world with heq | ⟨after, hcut, hafter⟩
  · rw [heq]
    cases b world with
    | ok x after => exact hrest x after
    | error signal after => exact .inl rfl
  · rw [hcut]
    exact .inr ⟨after, rfl, hafter⟩

theorem observe {a b : Eval α} (h : Refines P a b) : Refines P (observe a) (observe b) := by
  intro world
  unfold Eval.observe
  rcases h world with heq | ⟨after, hcut, hafter⟩
  · exact .inl (by rw [heq])
  · exact .inr ⟨after, by rw [hcut], hafter⟩

theorem catchReturn {a b : Eval Value} (h : Refines P a b) :
    Refines P (catchReturn a) (catchReturn b) :=
  h.observe.bind fun _ => refl _

theorem ite {condition : Prop} [Decidable condition] {a b c d : Eval α} (hthen : Refines P a b)
    (helse : Refines P c d) :
    Refines P (if condition then a else c) (if condition then b else d) := by
  split
  · exact hthen
  · exact helse

end Refines

end Eval

structure Evaluator.Refines (P : World → Prop) (first second : Evaluator) : Prop where
  node (scope : FrameId) (node : Node) :
    Eval.Refines P (first.node scope node) (second.node scope node)
  call (ref : FunctionRef) (arguments : List Value) :
    Eval.Refines P (first.call ref arguments) (second.call ref arguments)

namespace Eval

/-- A better evaluator changes nothing but where an action is cut off. -/
def Extends {α : Type} (action : Evaluator → Eval α) : Prop :=
  ∀ ⦃P : World → Prop⦄ ⦃ev ev' : Evaluator⦄, ev.Refines P ev' → Refines P (action ev) (action ev')

open Refines (refl)

variable {P : World → Prop} {ev ev' : Evaluator} (h : ev.Refines P ev')

include h

theorem body_refines (scope : FrameId) (last : Value) (nodes : List Node) :
    Refines P (body ev scope last nodes) (body ev' scope last nodes) := by
  induction nodes generalizing last with
  | nil => exact refl _
  | cons node nodes ih => exact (h.node scope node).bind ih

theorem values_refines (scope : FrameId) (nodes : List Node) :
    Refines P (values ev scope nodes) (values ev' scope nodes) := by
  induction nodes with
  | nil => exact refl _
  | cons node nodes ih => exact (h.node scope node).bind fun _ => ih.bind fun _ => refl _

theorem force_refines (id : ThunkId) : Refines P (force ev id) (force ev' id) := by
  refine (refl get).bind ?_
  intro world
  split
  · exact refl _
  · rename_i node scope _
    refine (refl _).bind fun _ => (h.node scope node).observe.bind ?_
    intro outcome
    exact refl _
  · exact refl _
  · exact refl _

theorem readVariable_refines (scope : FrameId) (name : String) :
    Refines P (readVariable ev scope name) (readVariable ev' scope name) := by
  refine (refl get).bind ?_
  intro world
  split
  · exact refl _
  · exact force_refines h _
  · exact refl _

/-! ## Calls -/

theorem resolveFunction_refines (scope : FrameId) (name : String) :
    Refines P (resolveFunction ev scope name) (resolveFunction ev' scope name) := by
  refine (refl get).bind ?_
  intro world
  split
  · exact refl _
  · exact refl _
  · exact refl _
  · exact ((readVariable_refines h scope name).bind fun _ => refl _).ite (refl _)

theorem argumentValue_refines (caller : FrameId) (bound : Bound) :
    Refines P (argumentValue ev caller bound) (argumentValue ev' caller bound) := by
  cases bound with
  | missing => exact refl _
  | single node => exact h.node caller node
  | rest nodes => exact (values_refines h caller nodes).bind fun _ => refl _

theorem argumentValues_refines (caller : FrameId) (bounds : List Bound) :
    Refines P (argumentValues ev caller bounds) (argumentValues ev' caller bounds) := by
  induction bounds with
  | nil => exact refl _
  | cons bound bounds ih =>
      exact (argumentValue_refines h caller bound).bind fun _ => ih.bind fun _ => refl _

theorem parameterSlot_refines (caller frame : FrameId) (p : Parameter Node) (bound : Bound) :
    Refines P (parameterSlot ev caller frame p bound) (parameterSlot ev' caller frame p bound) := by
  cases bound with
  | missing =>
      refine Refines.bind ?_ fun _ => refl _
      unfold defaultValue
      split
      · exact h.node frame _
      · exact refl _
  | single node => exact (refl _).ite ((h.node caller node).bind fun _ => refl _)
  | rest nodes => exact (values_refines h caller nodes).bind fun _ => refl _

theorem fillSlots_refines (caller frame : FrameId) (index : Nat) (ps : List (Parameter Node))
    (bounds : List Bound) :
    Refines P (fillSlots ev caller frame index ps bounds)
      (fillSlots ev' caller frame index ps bounds) := by
  induction ps generalizing index bounds with
  | nil =>
      unfold fillSlots
      exact refl _
  | cons p ps ih =>
      cases bounds with
      | nil =>
          unfold fillSlots
          exact refl _
      | cons bound bounds =>
          unfold fillSlots
          refine (parameterSlot_refines h caller frame p bound).bind ?_
          intro filled
          exact (refl _).bind fun _ => ih (index + 1) bounds

theorem callFrame_refines (caller defining : FrameId) (arguments : BoundArguments) :
    Refines P (callFrame ev caller defining arguments)
      (callFrame ev' caller defining arguments) :=
  (refl _).bind fun frame => (fillSlots_refines h caller frame 0 _ _).bind fun _ => refl _

theorem runHost_refines (scope : FrameId) (parameters : List Node) (action : HostAction) :
    Refines P (runHost ev scope parameters action) (runHost ev' scope parameters action) := by
  induction action with
  | yield v => exact refl _
  | fail failure => exact refl _
  | leave v => exact refl _
  | call callee arguments next ih => exact (h.call callee arguments).bind ih
  | evaluate index next ih =>
      unfold runHost
      split
      · exact refl _
      · exact (h.node scope _).bind ih

theorem invoke_refines (caller : FrameId) (callable : Callable) (arguments : BoundArguments) :
    Refines P (invoke ev caller callable arguments) (invoke ev' caller callable arguments) := by
  cases callable with
  | closure closure =>
      exact (callFrame_refines h caller closure.scope arguments).bind fun frame =>
        (body_refines h frame .nil closure.parts.body).catchReturn
  | native native =>
      refine (argumentValues_refines h caller arguments.bound).bind ?_
      intro vs
      cases native.code with
      | primitive primitive => exact refl _
      | host run => exact (refl get).bind fun world => runHost_refines h caller [] _

theorem callFunction_refines (ref : FunctionRef) (arguments : List Value) :
    Refines P (callFunction ev ref arguments) (callFunction ev' ref arguments) :=
  (refl _).bind fun callable => (refl _).bind fun bound =>
    invoke_refines h World.root callable bound

theorem callSite_refines (scope : FrameId) (site : Nat) (arguments : List Node)
    (ref : FunctionRef) :
    Refines P (callSite ev scope site arguments ref) (callSite ev' scope site arguments ref) :=
  (refl _).bind fun callable => (refl _).bind fun bound => invoke_refines h scope callable bound

/-! ## Code -/

theorem cond_refines (scope : FrameId) (clauses : List (Node × List Node)) :
    Refines P (cond ev scope clauses) (cond ev' scope clauses) := by
  induction clauses with
  | nil => exact refl _
  | cons clause clauses ih =>
      refine (h.node scope clause.1).bind ?_
      intro v
      exact ((refl _).ite (body_refines h scope .nil clause.2)).ite ih

theorem allOf_refines (scope : FrameId) (last : Value) (nodes : List Node) :
    Refines P (allOf ev scope last nodes) (allOf ev' scope last nodes) := by
  induction nodes generalizing last with
  | nil => exact refl _
  | cons node nodes ih => exact (h.node scope node).bind fun v => (ih v).ite (refl _)

theorem anyOf_refines (scope : FrameId) (nodes : List Node) :
    Refines P (anyOf ev scope nodes) (anyOf ev' scope nodes) := by
  induction nodes with
  | nil => exact refl _
  | cons node nodes ih => exact (h.node scope node).bind fun v => (refl _).ite ih

theorem whileLoop_refines (scope : FrameId) (test : Node) (nodes : List Node) {fuel extra : Nat}
    (hcut : extra = 0 ∨ ∀ world, P world) (last : Value) :
    Refines P (whileLoop ev scope test nodes fuel last)
      (whileLoop ev' scope test nodes (fuel + extra) last) := by
  induction fuel generalizing last with
  | zero =>
      rcases hcut with rfl | hcut
      · exact refl _
      · exact .exhausted _ hcut
  | succ fuel ih =>
      rw [Nat.add_right_comm]
      refine (h.node scope test).bind ?_
      intro v
      exact ((body_refines h scope .nil nodes).bind ih).ite (refl _)

theorem eachElement_refines (scope : FrameId) (name : String) (nodes : List Node)
    (items : List Value) :
    Refines P (eachElement ev scope name nodes items) (eachElement ev' scope name nodes items) := by
  induction items with
  | nil => exact refl _
  | cons item items ih =>
      exact (refl _).bind fun _ => (body_refines h scope .nil nodes).bind fun _ => ih

theorem foreach_refines (scope : FrameId) (name : String) (source : Node) (result : Option Node)
    (nodes : List Node) :
    Refines P (foreach ev scope name source result nodes)
      (foreach ev' scope name source result nodes) := by
  refine (h.node scope source).bind fun v => (refl _).bind fun inner => (refl _).bind fun _ =>
    (refl _).bind fun items => (eachElement_refines h inner name nodes items).bind fun _ =>
      (refl _).bind fun _ => ?_
  cases result with
  | none => exact refl _
  | some node => exact h.node inner node

theorem pipeline_refines (scope : FrameId) (name : String) (v : Value) (steps : List Node) :
    Refines P (pipeline ev scope name v steps) (pipeline ev' scope name v steps) := by
  induction steps generalizing v with
  | nil => exact refl _
  | cons step steps ih =>
      exact (refl _).bind fun inner => (refl _).bind fun _ => (h.node inner step).bind ih

theorem defineAll_refines (scope : FrameId) (bindings : List (String × Option Node)) :
    Refines P (defineAll ev scope bindings) (defineAll ev' scope bindings) := by
  induction bindings with
  | nil => exact refl _
  | cons binding bindings ih =>
      obtain ⟨name, node⟩ := binding
      cases node with
      | none => exact (refl (define scope name .nil)).bind fun _ => ih
      | some node => exact (h.node scope node).bind fun v => (refl _).bind fun _ => ih

theorem destructure_refines (scope : FrameId) (names : List String) (restName : Option String)
    (source : Node) (nodes : List Node) :
    Refines P (destructure ev scope names restName source nodes)
      (destructure ev' scope names restName source nodes) := by
  refine (h.node scope source).bind fun v => (refl _).bind fun items => (refl _).bind fun inner =>
    (refl _).bind fun left => ?_
  cases restName with
  | none => exact body_refines h inner .nil nodes
  | some name => exact (refl _).bind fun _ => body_refines h inner .nil nodes

theorem assign_refines (scope : FrameId) (discipline : Discipline) (last : Value)
    (pairs : List (String × Node)) :
    Refines P (assign ev scope discipline last pairs) (assign ev' scope discipline last pairs) := by
  induction pairs generalizing last with
  | nil => exact refl _
  | cons pair pairs ih =>
      exact (h.node scope pair.2).bind fun v => (refl _).bind fun _ => ih v

theorem handle_refines (scope : FrameId) (catches : List (CatchClause Node)) (failure : Failure) :
    Refines P (handle ev scope catches failure) (handle ev' scope catches failure) := by
  unfold handle
  split
  · exact refl _
  · exact (refl _).bind fun inner => (refl _).bind fun _ => (refl _).bind fun _ =>
      body_refines h inner .nil _

theorem recover_refines (scope : FrameId) (catches : List (CatchClause Node))
    (observed : Except Signal Value) :
    Refines P (recover ev scope catches observed) (recover ev' scope catches observed) := by
  unfold recover
  split
  · exact handle_refines h scope catches _
  · exact refl _

theorem finish_refines (scope : FrameId) (finalizer : Option (List Node))
    (observed : Except Signal Value) :
    Refines P (finish ev scope finalizer observed) (finish ev' scope finalizer observed) := by
  cases finalizer with
  | none => exact refl _
  | some cleanup => exact (body_refines h scope .nil cleanup).bind fun _ => refl _

theorem tryCatch_refines (scope : FrameId) (nodes : List Node) (catches : List (CatchClause Node))
    (finalizer : Option (List Node)) :
    Refines P (tryCatch ev scope nodes catches finalizer)
      (tryCatch ev' scope nodes catches finalizer) := by
  rw [tryCatch_eq, tryCatch_eq]
  have hprotected :=
    (body_refines h scope .nil nodes).observe.bind (recover_refines h scope catches)
  exact hprotected.observe.bind (finish_refines h scope finalizer)

theorem callee_refines (scope : FrameId) (callee : Node)
    {next next' : FunctionRef → Eval Value} (hnext : ∀ ref, Refines P (next ref) (next' ref)) :
    Refines P (do let ref ← functionOf (← ev.node scope callee); next ref)
      (do let ref ← functionOf (← ev'.node scope callee); next' ref) :=
  (h.node scope callee).bind fun _ => (refl _).bind hnext

theorem form_refines {fuel extra : Nat} (hcut : extra = 0 ∨ ∀ world, P world) (scope : FrameId)
    (parameters : BuiltIn) :
    Refines P (form ev fuel scope parameters) (form ev' (fuel + extra) scope parameters) := by
  cases parameters with
  | quote v => exact refl _
  | sequence nodes => exact body_refines h scope .nil nodes
  | ifElse test onTrue onFalse =>
      exact (h.node scope test).bind fun v =>
        (h.node scope onTrue).ite (body_refines h scope .nil onFalse)
  | cond clauses => exact cond_refines h scope clauses
  | whenTrue test nodes =>
      exact (h.node scope test).bind fun v => (body_refines h scope .nil nodes).ite (refl _)
  | whenFalse test nodes =>
      exact (h.node scope test).bind fun v => (refl _).ite (body_refines h scope .nil nodes)
  | allOf items => exact allOf_refines h scope _ items
  | anyOf items => exact anyOf_refines h scope items
  | whileLoop test nodes => exact whileLoop_refines h scope test nodes hcut .nil
  | foreach name source result nodes => exact foreach_refines h scope name source result nodes
  | returnWith value =>
      cases value with
      | none => exact refl _
      | some node => exact (h.node scope node).bind fun _ => refl _
  | throwWith kind message => exact (h.node scope message).bind fun _ => refl _
  | pipeline first steps =>
      exact (h.node scope first).bind fun v => pipeline_refines h scope _ v steps
  | letIn bindings nodes =>
      exact (refl _).bind fun inner => (defineAll_refines h inner bindings).bind fun _ =>
        body_refines h inner .nil nodes
  | destructure names restName source nodes =>
      exact destructure_refines h scope names restName source nodes
  | assign discipline pairs => exact assign_refines h scope discipline .nil pairs
  | lambda parts => exact refl _
  | defun name parts => exact refl _
  | functionNamed name => exact (resolveFunction_refines h scope name).bind fun _ => refl _
  | functionOf callee => exact callee_refines h scope callee fun _ => refl _
  | tryCatch nodes catches finalizer => exact tryCatch_refines h scope nodes catches finalizer
  | funcall callee arguments =>
      exact callee_refines h scope callee fun ref =>
        (values_refines h scope arguments).bind fun vs =>
        callFunction_refines h ref vs
  | applyList callee arguments =>
      exact callee_refines h scope callee fun ref =>
        (values_refines h scope arguments).bind fun vs =>
        (refl _).bind fun items => callFunction_refines h ref items

theorem code_refines {fuel extra : Nat} (hcut : extra = 0 ∨ ∀ world, P world) (scope : FrameId)
    (code : Code) :
    Refines P (Eval.code ev fuel scope code) (Eval.code ev' (fuel + extra) scope code) := by
  cases code with
  | literal v => exact refl _
  | readVariable name => exact readVariable_refines h scope name
  | form slot => exact (refl (ofFailure slot.get)).bind (form_refines h hcut scope)
  | callNamed site name arguments =>
      exact (resolveFunction_refines h scope name).bind fun ref =>
        callSite_refines h scope site arguments ref
  | callComputed site callee arguments =>
      exact callee_refines h scope callee fun ref => callSite_refines h scope site arguments ref
  | host parameters action => exact runHost_refines h scope parameters action

theorem step_refines (limit : Nat) {fuel extra : Nat} (hcut : extra = 0 ∨ ∀ world, P world)
    (scope : FrameId) (node : Node) :
    Refines P (step ev limit fuel scope node) (step ev' limit (fuel + extra) scope node) :=
  (refl _).bind fun _ => (code_refines h hcut scope node.code).observe.bind fun _ => refl _

omit h in
/-- An evaluator with more steps does what one with fewer steps does, unless that one is cut off. -/
theorem evaluator_refines (limit fuel extra : Nat) :
    (evaluator limit fuel).Refines (fun _ => True) (evaluator limit (fuel + extra)) := by
  have hcut : ∀ _ : World, True := fun _ => trivial
  induction fuel with
  | zero => exact ⟨fun _ _ => .exhausted _ hcut, fun _ _ => .exhausted _ hcut⟩
  | succ fuel ih =>
      rw [Nat.add_right_comm]
      exact ⟨step_refines ih limit (.inr hcut), fun ref arguments =>
        (callFunction_refines ih ref arguments).catchReturn⟩

end Eval

end LispEngine
