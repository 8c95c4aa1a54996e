import LispEngine.Proofs.Likeness
import LispEngine.Proofs.Moments

/-!
# Evaluations in like worlds

One lemma for each function of the evaluator: it ends in the same way in like worlds, and leaves
like worlds.
-/

namespace LispEngine

structure Evaluator.Agree (L : Likeness) (first second : Evaluator) : Prop where
  node {node : Node} {scope other : FrameId} (visit : L.visits node scope other) :
    Eval.Agree L (first.node scope node) (second.node other node)
  call (ref : FunctionRef) (arguments : List Value) :
    Eval.Agree L (first.call ref arguments) (second.call ref arguments)

theorem Evaluator.Agree.common {L : Likeness} {ev ev' : Evaluator} (h : ev.Agree L ev')
    (scope : FrameId) {node : Node} (hnode : L.Common node) :
    Eval.Agree L (ev.node scope node) (ev'.node scope node) :=
  h.node (hnode scope)

namespace Eval

variable {L : Likeness} {ev ev' : Evaluator} (h : ev.Agree L ev')

include h

theorem body_agree (scope : FrameId) (last : Value) {nodes : List Node}
    (hnodes : ∀ node ∈ nodes, L.Common node) :
    Agree L (body ev scope last nodes) (body ev' scope last nodes) := by
  induction nodes generalizing last with
  | nil => exact .pure last
  | cons node nodes ih =>
      obtain ⟨hnode, hrest⟩ := List.forall_mem_cons.mp hnodes
      exact (h.common scope hnode).bind fun v => ih v hrest

theorem values_agree {scope other : FrameId} {nodes : List Node}
    (hnodes : ∀ node ∈ nodes, L.visits node scope other) :
    Agree L (values ev scope nodes) (values ev' other nodes) := by
  induction nodes with
  | nil => exact .pure []
  | cons node nodes ih =>
      obtain ⟨hnode, hrest⟩ := List.forall_mem_cons.mp hnodes
      exact (h.node hnode).bind fun _ => (ih hrest).bind fun _ => .pure _

theorem force_agree (id : ThunkId) : Agree L (force ev id) (force ev' id) := by
  intro world twin hlike
  have hthunk := L.thunk id.index hlike
  unfold force
  simp only [run_get_bind]
  generalize world.thunks[id.index]? = thunk, twin.thunks[id.index]? = like at hthunk
  cases hthunk with
  | none => exact .error hlike
  | some hthunk =>
      cases hthunk with
      | done v => exact .ok hlike
      | forcing => exact .error hlike
      | @pending node scope other hvisit =>
          refine ((setThunk_agree id .forcing).bind fun _ =>
            (h.node hvisit).observe.bind fun outcome => ?_) world twin hlike
          cases outcome with
          | ok v => exact (setThunk_agree id (.done v)).bind fun _ => .pure v
          | error signal =>
              exact (setThunk_agree id (.pending hvisit)).bind fun _ => .throw signal

theorem readVariable_agree (scope : FrameId) (name : String) :
    Agree L (readVariable ev scope name) (readVariable ev' scope name) := by
  refine .get ?_ ?_
  · intro world thunks sites
    rw [World.find?_withStores]
    rfl
  · intro world
    split
    · exact .pure _
    · exact force_agree h _
    · split
      · exact .pure _
      · exact .fail _

/-! ## Calls -/

omit h in
theorem functionOf_agree (v : Value) : Agree L (functionOf v) (functionOf v) := by
  unfold functionOf
  split
  · exact .pure _
  · exact .fail _

theorem resolveFunction_agree (scope : FrameId) (name : String) :
    Agree L (resolveFunction ev scope name) (resolveFunction ev' scope name) := by
  refine .get ?_ ?_
  · intro world thunks sites
    rw [World.contains_withStores]
    rfl
  · intro world
    split
    · exact .pure _
    · exact .fail _
    · exact .fail _
    · exact ((readVariable_agree h scope name).bind functionOf_agree).ite (.fail _)

theorem argumentValue_agree {caller other : FrameId} {bound : Bound}
    (hbound : ∀ node ∈ bound.nodes, L.visits node caller other) :
    Agree L (argumentValue ev caller bound) (argumentValue ev' other bound) := by
  cases bound with
  | missing => exact .pure _
  | single node => exact h.node (hbound node (by simp [Bound.nodes]))
  | rest nodes => exact (values_agree h hbound).bind fun _ => .pure _

theorem argumentValues_agree {caller other : FrameId} {bounds : List Bound}
    (hbounds : ∀ bound ∈ bounds, ∀ node ∈ bound.nodes, L.visits node caller other) :
    Agree L (argumentValues ev caller bounds) (argumentValues ev' other bounds) := by
  induction bounds with
  | nil => exact .pure []
  | cons bound bounds ih =>
      obtain ⟨hbound, hrest⟩ := List.forall_mem_cons.mp hbounds
      exact (argumentValue_agree h hbound).bind fun _ => (ih hrest).bind fun _ => .pure _

theorem parameterSlot_agree {caller other : FrameId} (frame : FrameId) {p : Parameter Node}
    {bound : Bound} (hdefault : ∀ node, p.default = some node → L.Common node)
    (hbound : ∀ node ∈ bound.nodes, L.visits node caller other) :
    Agree L (parameterSlot ev caller frame p bound) (parameterSlot ev' other frame p bound) := by
  cases bound with
  | missing =>
      refine Agree.bind ?_ fun _ => .pure _
      unfold defaultValue
      split
      · exact h.common frame (hdefault _ ‹_›)
      · exact .pure _
  | single node =>
      have hvisit := hbound node (by simp [Bound.nodes])
      exact Agree.ite ((addThunk_agree hvisit).bind fun _ => .pure _)
        ((h.node hvisit).bind fun _ => .pure _)
  | rest nodes => exact (values_agree h hbound).bind fun _ => .pure _

theorem fillSlots_agree {caller other : FrameId} (frame : FrameId) (index : Nat)
    {ps : List (Parameter Node)} {bounds : List Bound}
    (hps : ∀ p ∈ ps, ∀ node, p.default = some node → L.Common node)
    (hbounds : ∀ bound ∈ bounds, ∀ node ∈ bound.nodes, L.visits node caller other) :
    Agree L (fillSlots ev caller frame index ps bounds)
      (fillSlots ev' other frame index ps bounds) := by
  induction ps generalizing index bounds with
  | nil =>
      unfold fillSlots
      exact .pure ()
  | cons p ps ih =>
      cases bounds with
      | nil =>
          unfold fillSlots
          exact .pure ()
      | cons bound bounds =>
          obtain ⟨hp, hps⟩ := List.forall_mem_cons.mp hps
          obtain ⟨hbound, hbounds⟩ := List.forall_mem_cons.mp hbounds
          unfold fillSlots
          refine (parameterSlot_agree h frame hp hbound).bind ?_
          intro filled
          refine Agree.bind ?_ fun _ => ih (index + 1) hps hbounds
          exact .modify (fun _ _ _ => rfl) fun _ => ⟨rfl, rfl, rfl⟩

theorem callFrame_agree {caller other : FrameId} (defining : FrameId) {arguments : BoundArguments}
    (hdefaults : ∀ node ∈ LambdaParts.defaults arguments.spec, L.Common node)
    (hbounds : ∀ bound ∈ arguments.bound, ∀ node ∈ bound.nodes, L.visits node caller other) :
    Agree L (callFrame ev caller defining arguments)
      (callFrame ev' other defining arguments) := by
  have hps : ∀ p ∈ arguments.spec.parameters, ∀ node, p.default = some node → L.Common node :=
    fun p hp node hnode => hdefaults node (List.mem_filterMap.mpr ⟨p, hp, hnode⟩)
  refine Agree.bind ?_ fun frame =>
    (fillSlots_agree h frame 0 hps hbounds).bind fun _ => .pure frame
  exact .modifyGet (fun _ _ _ => rfl) fun _ => ⟨rfl, rfl, rfl⟩

theorem runHost_agree {scope other : FrameId} {parameters : List Node}
    (hparameters : ∀ node ∈ parameters, L.visits node scope other) (action : HostAction) :
    Agree L (runHost ev scope parameters action) (runHost ev' other parameters action) := by
  induction action with
  | yield v => exact .pure v
  | fail failure => exact .throw _
  | leave v => exact .throw _
  | call callee arguments next ih => exact (h.call callee arguments).bind ih
  | evaluate index next ih =>
      unfold runHost
      split
      · exact .fail _
      · rename_i node hnode
        exact (h.node (hparameters node (List.mem_of_getElem? hnode))).bind ih

theorem runNative_agree (caller other : FrameId) (code : NativeCode) (vs : List Value) :
    Agree L (runNative ev caller code vs) (runNative ev' other code vs) := by
  cases code with
  | primitive p => exact .ofExcept _
  | host run =>
      refine .get (fun _ _ _ => rfl) fun world => ?_
      exact runHost_agree h (by simp) _

theorem invoke_agree {caller other : FrameId} {callable : Callable} {arguments : BoundArguments}
    (hcallable : ∀ node ∈ callable.nodes, L.Common node)
    (hdefaults : ∀ node ∈ LambdaParts.defaults arguments.spec, L.Common node)
    (hbounds : ∀ bound ∈ arguments.bound, ∀ node ∈ bound.nodes, L.visits node caller other) :
    Agree L (invoke ev caller callable arguments) (invoke ev' other callable arguments) := by
  cases callable with
  | closure closure =>
      refine (callFrame_agree h closure.scope hdefaults hbounds).bind ?_
      intro frame
      have hbody : ∀ node ∈ closure.parts.body, L.Common node :=
        fun node hnode => hcallable node (List.mem_append_right _ hnode)
      exact (body_agree h frame .nil hbody).catchReturn
  | native native =>
      exact (argumentValues_agree h hbounds).bind fun vs => runNative_agree h caller other _ vs

theorem callFunction_agree (ref : FunctionRef) (arguments : List Value) :
    Agree L (callFunction ev ref arguments) (callFunction ev' ref arguments) := by
  refine callableOf_bind_agree ref ?_
  intro world twin callable hlike hfunction
  have hcallable := L.function hlike hfunction
  have hspec : ∀ node ∈ LambdaParts.defaults callable.spec, L.Common node :=
    fun node hnode => hcallable node (callable.defaults_subset hnode)
  have hvalues : ∀ node ∈ arguments.map (Node.ofValue · none), L.Common node := by
    intro node hnode
    obtain ⟨v, -, rfl⟩ := List.mem_map.mp hnode
    exact L.ofValue v
  have hplainly := bindArguments_plainly callable.spec _ hspec hvalues
  cases hbound : bindArguments callable.spec (arguments.map (Node.ofValue · none)) with
  | error cause => exact .error hlike
  | ok bound =>
      rw [hbound] at hplainly
      obtain ⟨hdefaults, hbounds⟩ := hplainly
      exact invoke_agree h hcallable hdefaults
        (fun b hb node hnode => hbounds b hb node hnode World.root) world twin hlike

theorem callSite_agree {scope : FrameId} {node : Node} {site : Nat} {arguments : List Node}
    (ref : FunctionRef) (hvisit : L.visits node scope scope)
    (hsite : node.code.site? = some (site, arguments)) :
    Agree L (callSite ev scope site arguments ref) (callSite ev' scope site arguments ref) := by
  refine callableOf_bind_agree ref ?_
  intro world twin callable hlike hfunction
  have hcallable := L.function hlike hfunction
  obtain ⟨hbind, hcommon⟩ := L.bindSite hlike hvisit hsite hfunction
  refine hbind.bind ?_
  intro bound after other hrun hafter
  obtain ⟨hdefaults, hbounds⟩ := hcommon bound after hrun
  exact invoke_agree h hcallable hdefaults
    (fun b hb node hnode => hbounds b hb node hnode scope) after other hafter

/-! ## Code -/

theorem cond_agree (scope : FrameId) {clauses : List (Node × List Node)}
    (hclauses : ∀ clause ∈ clauses, ∀ node ∈ clause.1 :: clause.2, L.Common node) :
    Agree L (cond ev scope clauses) (cond ev' scope clauses) := by
  induction clauses with
  | nil => exact .pure _
  | cons clause clauses ih =>
      obtain ⟨hclause, hrest⟩ := List.forall_mem_cons.mp hclauses
      obtain ⟨htest, hbody⟩ := List.forall_mem_cons.mp hclause
      refine (h.common scope htest).bind ?_
      intro v
      exact ((Agree.pure v).ite (body_agree h scope .nil hbody)).ite (ih hrest)

theorem allOf_agree (scope : FrameId) (last : Value) {nodes : List Node}
    (hnodes : ∀ node ∈ nodes, L.Common node) :
    Agree L (allOf ev scope last nodes) (allOf ev' scope last nodes) := by
  induction nodes generalizing last with
  | nil => exact .pure last
  | cons node nodes ih =>
      obtain ⟨hnode, hrest⟩ := List.forall_mem_cons.mp hnodes
      exact (h.common scope hnode).bind fun v => (ih v hrest).ite (.pure v)

theorem anyOf_agree (scope : FrameId) {nodes : List Node}
    (hnodes : ∀ node ∈ nodes, L.Common node) :
    Agree L (anyOf ev scope nodes) (anyOf ev' scope nodes) := by
  induction nodes with
  | nil => exact .pure _
  | cons node nodes ih =>
      obtain ⟨hnode, hrest⟩ := List.forall_mem_cons.mp hnodes
      exact (h.common scope hnode).bind fun v => (Agree.pure v).ite (ih hrest)

theorem whileLoop_agree (scope : FrameId) {test : Node} {nodes : List Node} (fuel : Nat)
    (last : Value) (htest : L.Common test) (hnodes : ∀ node ∈ nodes, L.Common node) :
    Agree L (whileLoop ev scope test nodes fuel last)
      (whileLoop ev' scope test nodes fuel last) := by
  induction fuel generalizing last with
  | zero => exact .throw _
  | succ fuel ih =>
      refine (h.common scope htest).bind ?_
      intro v
      exact ((body_agree h scope .nil hnodes).bind ih).ite (.pure last)

omit h in
theorem elements_agree (v : Value) : Agree L (elements v) (elements v) := by
  unfold elements
  split
  · exact .pure _
  · exact .pure _
  · exact .pure _
  · exact .pure _
  · exact .pure _
  · exact .fail _

theorem eachElement_agree (scope : FrameId) (name : String) {nodes : List Node}
    (hnodes : ∀ node ∈ nodes, L.Common node) (items : List Value) :
    Agree L (eachElement ev scope name nodes items)
      (eachElement ev' scope name nodes items) := by
  induction items with
  | nil => exact .pure _
  | cons item items ih =>
      exact (setLocal_agree scope name item).bind fun _ =>
        (body_agree h scope .nil hnodes).bind fun _ => ih

theorem foreach_agree (scope : FrameId) (name : String) {source : Node} {result : Option Node}
    {nodes : List Node} (hsource : L.Common source)
    (hresult : ∀ node, result = some node → L.Common node)
    (hnodes : ∀ node ∈ nodes, L.Common node) :
    Agree L (foreach ev scope name source result nodes)
      (foreach ev' scope name source result nodes) := by
  refine (h.common scope hsource).bind fun v => (addChild_agree scope).bind fun inner => ?_
  refine (setLocal_agree inner name .nil).bind fun _ => (elements_agree v).bind fun items => ?_
  refine (eachElement_agree h inner name hnodes items).bind fun _ => ?_
  refine (setLocal_agree inner name .nil).bind fun _ => ?_
  cases result with
  | none => exact .pure _
  | some node => exact h.common inner (hresult node rfl)

theorem pipeline_agree (scope : FrameId) (name : String) (v : Value) {steps : List Node}
    (hsteps : ∀ node ∈ steps, L.Common node) :
    Agree L (pipeline ev scope name v steps) (pipeline ev' scope name v steps) := by
  induction steps generalizing v with
  | nil => exact .pure v
  | cons step steps ih =>
      obtain ⟨hstep, hrest⟩ := List.forall_mem_cons.mp hsteps
      refine (addChild_agree scope).bind fun inner => ?_
      refine (setLocal_agree inner name v).bind fun _ => ?_
      exact (h.common inner hstep).bind fun next => ih next hrest

theorem defineAll_agree (scope : FrameId) {bindings : List (String × Option Node)}
    (hbindings : ∀ binding ∈ bindings, ∀ node, binding.2 = some node → L.Common node) :
    Agree L (defineAll ev scope bindings) (defineAll ev' scope bindings) := by
  induction bindings with
  | nil => exact .pure _
  | cons binding bindings ih =>
      obtain ⟨hbinding, hrest⟩ := List.forall_mem_cons.mp hbindings
      obtain ⟨name, node⟩ := binding
      cases node with
      | none => exact (define_agree scope name .nil).bind fun _ => ih hrest
      | some node =>
          exact (h.common scope (hbinding node rfl)).bind fun v =>
            (define_agree scope name v).bind fun _ => ih hrest

omit h in
theorem listItems_agree (v : Value) : Agree L (listItems v) (listItems v) := by
  unfold listItems
  split
  · exact .pure _
  · exact .pure _
  · exact .fail _

omit h in
theorem defineItems_agree (scope : FrameId) (names : List String) (items : List Value) :
    Agree L (defineItems scope names items) (defineItems scope names items) := by
  induction names generalizing items with
  | nil => exact .pure items
  | cons name names ih => exact (define_agree scope name _).bind fun _ => ih _

theorem destructure_agree (scope : FrameId) (names : List String) (restName : Option String)
    {source : Node} {nodes : List Node} (hsource : L.Common source)
    (hnodes : ∀ node ∈ nodes, L.Common node) :
    Agree L (destructure ev scope names restName source nodes)
      (destructure ev' scope names restName source nodes) := by
  refine (h.common scope hsource).bind fun v => (listItems_agree v).bind fun items => ?_
  refine (addChild_agree scope).bind fun inner => ?_
  refine (defineItems_agree inner names items).bind fun left => ?_
  cases restName with
  | none => exact body_agree h inner .nil hnodes
  | some name =>
      exact (define_agree inner name _).bind fun _ => body_agree h inner .nil hnodes

theorem assign_agree (scope : FrameId) (discipline : Discipline) (last : Value)
    {pairs : List (String × Node)} (hpairs : ∀ pair ∈ pairs, L.Common pair.2) :
    Agree L (assign ev scope discipline last pairs)
      (assign ev' scope discipline last pairs) := by
  induction pairs generalizing last with
  | nil => exact .pure last
  | cons pair pairs ih =>
      obtain ⟨hpair, hrest⟩ := List.forall_mem_cons.mp hpairs
      exact (h.common scope hpair).bind fun v =>
        (update_agree discipline scope pair.1 v).bind fun _ => ih v hrest

omit h in
theorem close_agree (scope : FrameId) (name : Option String) {parts : LambdaParts Node}
    (hparts : ∀ node ∈ parts.children, L.Common node) :
    Agree L (close scope name parts) (close scope name parts) :=
  addFunction_agree trivial trivial hparts

theorem handle_agree (scope : FrameId) {catches : List (CatchClause Node)}
    (hcatches : ∀ clause ∈ catches, ∀ node ∈ clause.body, L.Common node) (failure : Failure) :
    Agree L (handle ev scope catches failure) (handle ev' scope catches failure) := by
  unfold handle
  split
  · exact .throw _
  · rename_i clause hclause
    refine (addChild_agree scope).bind fun inner => ?_
    refine Agree.bind ?_ fun v => (define_agree inner _ v).bind fun _ => ?_
    · exact .modifyGet (fun _ _ _ => rfl) fun _ => ⟨rfl, rfl, rfl⟩
    · exact body_agree h inner .nil (hcatches clause (List.mem_of_find?_eq_some hclause))

theorem tryCatch_agree (scope : FrameId) {nodes : List Node} {catches : List (CatchClause Node)}
    {finalizer : Option (List Node)} (hnodes : ∀ node ∈ nodes, L.Common node)
    (hcatches : ∀ clause ∈ catches, ∀ node ∈ clause.body, L.Common node)
    (hfinalizer : ∀ node ∈ finalizer.getD [], L.Common node) :
    Agree L (tryCatch ev scope nodes catches finalizer)
      (tryCatch ev' scope nodes catches finalizer) := by
  have hrecover (observed : Except Signal Value) :
      Agree L (recover ev scope catches observed) (recover ev' scope catches observed) := by
    unfold recover
    split
    · exact handle_agree h scope hcatches _
    · exact .resume _
  rw [tryCatch_eq, tryCatch_eq]
  refine ((body_agree h scope .nil hnodes).observe.bind hrecover).observe.bind ?_
  intro outcome
  cases finalizer with
  | none => exact .resume outcome
  | some cleanup => exact (body_agree h scope .nil hfinalizer).bind fun _ => .resume outcome

omit h in
theorem spreadArguments_agree (vs : List Value) :
    Agree L (spreadArguments vs) (spreadArguments vs) := by
  induction vs with
  | nil => exact .fail _
  | cons v vs ih =>
      unfold spreadArguments
      split
      · exact .fail _
      · exact .pure _
      · exact .pure _
      · exact .fail _
      · rename_i _ _ _ heq
        cases heq
        exact ih.bind fun _ => .pure _

theorem callee_agree (scope : FrameId) {next next' : FunctionRef → Eval Value} {callee : Node}
    (hcommon : L.Common callee) (hnext : ∀ ref, Agree L (next ref) (next' ref)) :
    Agree L (do let ref ← functionOf (← ev.node scope callee); next ref)
      (do let ref ← functionOf (← ev'.node scope callee); next' ref) :=
  (h.common scope hcommon).bind fun v => (functionOf_agree v).bind hnext

theorem form_agree (fuel : Nat) (scope : FrameId) {parameters : BuiltIn}
    (hchild : ∀ child ∈ parameters.children, L.Common child) :
    Agree L (form ev fuel scope parameters) (form ev' fuel scope parameters) := by
  have hvalues {nodes : List Node} (hnodes : ∀ child ∈ nodes, L.Common child) :
      Agree L (values ev scope nodes) (values ev' scope nodes) :=
    values_agree h fun child hmem => hnodes child hmem scope
  cases parameters with
  | quote v => exact .pure v
  | sequence nodes => exact body_agree h scope .nil hchild
  | ifElse test onTrue onFalse =>
      simp only [FormOf.children, List.forall_mem_cons] at hchild
      obtain ⟨htest, honTrue, honFalse⟩ := hchild
      exact (h.common scope htest).bind fun v =>
        (h.common scope honTrue).ite (body_agree h scope .nil honFalse)
  | cond clauses =>
      refine cond_agree h scope ?_
      intro clause hclause node hnode
      exact hchild node (List.mem_flatMap.mpr ⟨clause, hclause, hnode⟩)
  | whenTrue test nodes =>
      obtain ⟨htest, hnodes⟩ := List.forall_mem_cons.mp hchild
      exact (h.common scope htest).bind fun v =>
        (body_agree h scope .nil hnodes).ite (.pure _)
  | whenFalse test nodes =>
      obtain ⟨htest, hnodes⟩ := List.forall_mem_cons.mp hchild
      exact (h.common scope htest).bind fun v =>
        (Agree.pure _).ite (body_agree h scope .nil hnodes)
  | allOf items => exact allOf_agree h scope _ hchild
  | anyOf items => exact anyOf_agree h scope hchild
  | whileLoop test nodes =>
      obtain ⟨htest, hnodes⟩ := List.forall_mem_cons.mp hchild
      exact whileLoop_agree h scope fuel .nil htest hnodes
  | foreach name source result nodes =>
      simp only [FormOf.children, List.cons_append, List.forall_mem_cons, List.forall_mem_append,
        Option.mem_toList] at hchild
      obtain ⟨hsource, hresult, hnodes⟩ := hchild
      exact foreach_agree h scope name hsource hresult hnodes
  | returnWith value =>
      cases value with
      | none => exact .throw _
      | some node =>
          exact (h.common scope (hchild node (by simp [FormOf.children]))).bind fun _ => .throw _
  | throwWith kind message =>
      exact (h.common scope (hchild message (by simp [FormOf.children]))).bind fun _ => .throw _
  | pipeline first steps =>
      obtain ⟨hfirst, hsteps⟩ := List.forall_mem_cons.mp hchild
      exact (h.common scope hfirst).bind fun v => pipeline_agree h scope _ v hsteps
  | letIn bindings nodes =>
      obtain ⟨hbindings, hnodes⟩ := List.forall_mem_append.mp hchild
      refine (addChild_agree scope).bind fun inner => ?_
      refine (defineAll_agree h inner ?_).bind fun _ => body_agree h inner .nil hnodes
      intro binding hbinding node hnode
      exact hbindings node (List.mem_filterMap.mpr ⟨binding, hbinding, hnode⟩)
  | destructure names restName source nodes =>
      obtain ⟨hsource, hnodes⟩ := List.forall_mem_cons.mp hchild
      exact destructure_agree h scope names restName hsource hnodes
  | assign discipline pairs =>
      exact assign_agree h scope discipline .nil (List.forall_mem_map.mp hchild)
  | lambda parts => exact (close_agree scope none hchild).bind fun _ => .pure _
  | defun name parts =>
      refine (close_agree scope (some name) hchild).bind fun ref => ?_
      refine Agree.bind ?_ fun _ => .pure _
      exact .modify (fun _ _ _ => rfl) fun _ => ⟨rfl, rfl, rfl⟩
  | functionNamed name => exact (resolveFunction_agree h scope name).bind fun _ => .pure _
  | functionOf callee =>
      exact callee_agree h scope (hchild callee (by simp [FormOf.children])) fun _ => .pure _
  | tryCatch nodes catches finalizer =>
      simp only [FormOf.children, List.forall_mem_append] at hchild
      obtain ⟨⟨hnodes, hcatches⟩, hfinalizer⟩ := hchild
      refine tryCatch_agree h scope hnodes ?_ hfinalizer
      intro clause hclause node hnode
      exact hcatches node (List.mem_flatMap.mpr ⟨clause, hclause, hnode⟩)
  | funcall callee arguments =>
      obtain ⟨hcommon, harguments⟩ := List.forall_mem_cons.mp hchild
      exact callee_agree h scope hcommon fun ref => (hvalues harguments).bind fun vs =>
        callFunction_agree h ref vs
  | applyList callee arguments =>
      obtain ⟨hcommon, harguments⟩ := List.forall_mem_cons.mp hchild
      exact callee_agree h scope hcommon fun ref => (hvalues harguments).bind fun vs =>
        (spreadArguments_agree vs).bind fun items => callFunction_agree h ref items

theorem code_agree (fuel : Nat) {scope : FrameId} {node : Node}
    (hvisit : L.visits node scope scope) :
    Agree L (code ev fuel scope node.code) (code ev' fuel scope node.code) := by
  have hchild : ∀ child ∈ node.code.children, L.Common child := L.child hvisit
  have hsite {site : Nat} {arguments : List Node}
      (heq : node.code.site? = some (site, arguments)) (ref : FunctionRef) :
      Agree L (callSite ev scope site arguments ref) (callSite ev' scope site arguments ref) :=
    callSite_agree h ref hvisit heq
  generalize node.code = code at hchild hsite
  cases code with
  | literal v => exact .pure v
  | readVariable name => exact readVariable_agree h scope name
  | form slot =>
      obtain ⟨content⟩ := slot
      cases content with
      | none => exact .fail _
      | some parameters => exact form_agree h fuel scope hchild
  | callNamed site name arguments =>
      exact (resolveFunction_agree h scope name).bind fun ref => hsite rfl ref
  | callComputed site callee arguments =>
      exact callee_agree h scope (hchild callee (by simp [CodeOf.children])) fun ref =>
        hsite rfl ref
  | host parameters action =>
      exact runHost_agree h (fun child hmem => hchild child hmem scope) action

/-! ## Nodes -/

omit h in
theorem enter_agree (limit : Nat) (call : Call) :
    Agree L (enter limit call) (enter limit call) := by
  intro world twin hlike
  have htrace := Likeness.trace_eq hlike
  unfold enter
  rw [htrace]
  cases world.trace.isFull limit with
  | true => exact .error hlike
  | false => exact .ok (Likeness.withTrace hlike _)

omit h in
theorem leave_agree (position : Option Position) (outcome : Except Signal Value) :
    Agree L (leave position outcome) (leave position outcome) := by
  intro world twin hlike
  have htrace := Likeness.trace_eq hlike
  unfold leave
  rw [htrace]
  cases outcome with
  | ok v => exact .ok (Likeness.withTrace hlike _)
  | error signal => exact .error (Likeness.withTrace hlike _)

omit h in
/-- A constant is evaluated alike in all frames: nothing can fail once it is entered, so that nobody
sees its entry in the backtrace. -/
theorem step_constant {node : Node} {v : Value} (hconstant : node.constant? = some v)
    (ev : Evaluator) (limit fuel : Nat) (scope : FrameId) (world : World) :
    step ev limit fuel scope node world =
      if world.trace.isFull limit then .error (.failed (depthFailure limit world.trace)) world
      else .ok v world := by
  change EStateM.bind (enter limit ⟨node.name, node.position, scope⟩) _ world = _
  rw [Contract.Sound.code_constant hconstant]
  unfold EStateM.bind enter
  cases hfull : world.trace.isFull limit with
  | true => simp
  | false =>
      have hleft : { world with
          trace := (world.trace.push ⟨node.name, node.position, scope⟩).pop } = world := by
        rw [Backtrace.pop_push]
      simp only [Bool.false_eq_true, if_false]
      exact congrArg (EStateM.Result.ok v) hleft

theorem step_agree (limit fuel : Nat) {scope other : FrameId} {node : Node}
    (hvisit : L.visits node scope other) :
    Agree L (step ev limit fuel scope node) (step ev' limit fuel other node) := by
  cases hconstant : node.constant? with
  | some v =>
      intro world twin hlike
      have htrace := Likeness.trace_eq hlike
      rw [step_constant hconstant, step_constant hconstant, htrace]
      split
      · exact .error hlike
      · exact .ok hlike
  | none =>
      obtain rfl : scope = other := by
        refine (L.placed hvisit).resolve_right ?_
        rw [hconstant]
        exact Bool.false_ne_true
      refine (enter_agree limit _).bind fun _ => ?_
      exact (code_agree h fuel hvisit).observe.bind fun outcome =>
        leave_agree node.position outcome

omit h in
theorem evaluator_agree (limit fuel : Nat) :
    (evaluator limit fuel).Agree L (evaluator limit fuel) := by
  induction fuel with
  | zero => exact ⟨fun _ => .throw _, fun _ _ => .throw _⟩
  | succ fuel ih =>
      exact ⟨fun hvisit => step_agree ih limit fuel hvisit,
        fun ref arguments => (callFunction_agree ih ref arguments).catchReturn⟩

/-! ## Moments -/

section Moments

variable {halt : World → Bool}
  (hhalt : ∀ world twin, L.related world twin → halt twin = halt world)
  (hplaced : ∀ node scope other, L.visits node scope other → scope = other)

include hhalt

omit h in
theorem checked_agree {α : Type} {first second : Eval α} (hsame : Agree L first second) :
    Agree L (checked halt first) (checked halt second) := by
  intro world twin hlike
  have hrun := hsame world twin hlike
  unfold checked
  generalize first world = result, second twin = other at hrun
  cases hrun with
  | ok after =>
      simp only [hhalt _ _ after]
      split
      · exact .error after
      · exact .ok after
  | error after =>
      simp only [hhalt _ _ after]
      split
      · exact .error after
      · exact .error after

omit h in
include hplaced in
theorem evaluatorUntil_agree (limit fuel : Nat) :
    (evaluatorUntil halt limit fuel).Agree L (evaluatorUntil halt limit fuel) := by
  induction fuel with
  | zero => exact ⟨fun _ => .throw _, fun _ _ => .throw _⟩
  | succ fuel ih =>
      refine ⟨?_, fun ref arguments => (callFunction_agree ih ref arguments).catchReturn⟩
      intro node scope other hvisit
      obtain rfl := hplaced node scope other hvisit
      have henter := checked_agree hhalt (enter_agree limit ⟨node.name, node.position, scope⟩)
      have hcode := checked_agree hhalt (code_agree ih fuel hvisit).observe
      have hleave (outcome : Except Signal Value) :=
        checked_agree hhalt (leave_agree node.position outcome)
      have hvisited := henter.bind fun _ => hcode.bind hleave
      exact (checked_agree hhalt (.pure ())).bind fun _ => hvisited

end Moments

end Eval

end LispEngine
