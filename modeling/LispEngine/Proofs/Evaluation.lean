import LispEngine.Proofs.Contract

/-!
# Evaluations keep to contracts

One lemma for each function of the evaluator: with an evaluator of inner nodes that keeps to a sound
contract, the function keeps to it. Failures of inner nodes have left a node already, and a few
functions add failures of their own to them.
-/

namespace LispEngine.Contract.Sound

open Eval

variable {C : Contract} (hC : C.Sound) {ev : Evaluator} {trace : Backtrace}
  (hev : C.Evaluates ev trace) {world : World} {scope : FrameId}

include hC hev

theorem body_keeps {nodes : List Node} {last : Value} (h : C.At trace world)
    (hscope : C.enter world scope) (hnodes : ∀ node ∈ nodes, C.node node) (hlast : C.value last) :
    C.Keeps (C.raised trace) C.Holds world (body ev scope last nodes) := by
  induction nodes generalizing world last with
  | nil => exact hC.keeps_pure h.world hlast
  | cons node nodes ih =>
      refine hC.keeps_bind (hev.node h hscope (hnodes node (by simp))) ?_
      intro v after hnext hv
      exact ih (hnext.at h) (hC.enter_mono hnext hscope)
        (fun n hn => hnodes n (by simp [hn])) hv

theorem values_keeps {nodes : List Node} (h : C.At trace world) (hscope : C.enter world scope)
    (hnodes : ∀ node ∈ nodes, C.node node) :
    C.Keeps (C.raised trace) (fun _ vs => ∀ v ∈ vs, C.value v) world (values ev scope nodes) := by
  induction nodes generalizing world with
  | nil => exact hC.keeps_pure h.world (by simp)
  | cons node nodes ih =>
      refine hC.keeps_bind (hev.node h hscope (hnodes node (by simp))) ?_
      intro v after hnext hv
      refine hC.keeps_bind (ih (hnext.at h) (hC.enter_mono hnext hscope)
        (fun n hn => hnodes n (by simp [hn]))) ?_
      intro vs last hlast hvs
      exact hC.keeps_pure hlast.world (List.forall_mem_cons.mpr ⟨hv, hvs⟩)

omit hev in
theorem catchReturn_keeps {E : Failure → Prop} {action : Eval Value}
    (h : C.Keeps E C.Holds world action) : C.Keeps E C.Holds world (catchReturn action) := by
  refine hC.keeps_bind (keeps_observe h) ?_
  intro ending after hnext hending
  cases ending with
  | ok v => exact hC.keeps_resume hnext.world hending
  | error signal =>
      cases signal with
      | returned v => exact hC.keeps_pure hnext.world hending
      | failed failure => exact hC.keeps_resume hnext.world hending
      | exhausted => exact hending.elim

/-! ## Frames and deferred arguments -/

omit hev in
theorem addChild_keeps {E : Failure → Prop} (h : C.At trace world) (hscope : C.scope world scope) :
    C.Keeps E C.own world (Eval.addChild scope) :=
  keeps_modifyGet (hC.addChild h.world hscope).1 (hC.addChild h.world hscope).2

omit hev in
theorem setLocal_keeps {E : Failure → Prop} (h : C.At trace world) (hscope : C.own world scope)
    (name : String) {v : Value} (hv : C.value v) :
    C.Keeps E (fun _ _ => True) world (Eval.setLocal scope name v) :=
  keeps_modify (hC.setLocal name h.world hscope hv) trivial

omit hev in
theorem define_keeps_of_next {name : String} {v : Value} (hw : C.world world)
    (hset : C.Next world (world.setLocal scope name v)) :
    C.Keeps (C.failure trace) (fun _ _ => True) world (define scope name v) := by
  unfold Keeps Eval.define World.define
  by_cases hbinds : world.bindsLocally name scope = true
  · rw [if_pos hbinds]
    exact ⟨hC.next_refl hw, hC.plain ⟨by simp [CauseOf.category], rfl, rfl⟩⟩
  · rw [if_neg hbinds]
    exact ⟨hset, trivial⟩

omit hev in
theorem define_keeps (h : C.At trace world) (hscope : C.own world scope) (name : String)
    {v : Value} (hv : C.value v) :
    C.Keeps (C.failure trace) (fun _ _ => True) world (define scope name v) :=
  hC.define_keeps_of_next h.world (hC.setLocal name h.world hscope hv)

theorem force_keeps (h : C.At trace world) (id : ThunkId) :
    C.Keeps (C.failure trace) C.Holds world (force ev id) := by
  refine keeps_get ?_
  split
  · rename_i v hdone
    exact hC.keeps_pure h.world (hC.done h.world hdone)
  · rename_i node inner hpending
    obtain ⟨hnode, hforcing, hinner⟩ := hC.pending h.world hpending
    -- the thunk is marked only while its expression runs, so the two changes are taken together
    have hat : C.At trace (world.setThunk id .forcing) := ⟨hforcing, h.trace⟩
    have hrun := hev.node hat hinner hnode
    unfold Keeps at hrun ⊢
    change C.Outcome _ _ world
      (EStateM.bind (observe (ev.node inner node)) _ (world.setThunk id .forcing))
    unfold EStateM.bind observe
    cases hresult : ev.node inner node (world.setThunk id .forcing) with
    | ok v after =>
        rw [hresult] at hrun
        exact ⟨hC.settle h.world hpending hrun.1 hrun.2 (hev.result hresult), hrun.2⟩
    | error signal after =>
        rw [hresult] at hrun
        cases signal with
        | failed failure =>
            exact ⟨hC.restore h.world hpending hrun.1, hC.leaving hrun.2⟩
        | returned v => exact ⟨hC.restore h.world hpending hrun.1, hrun.2⟩
        | exhausted => exact hrun
  · exact hC.keeps_fail h.world ⟨by simp [CauseOf.category], rfl, rfl⟩
  · exact hC.keeps_fail h.world ⟨by simp [CauseOf.category], rfl, rfl⟩

theorem readVariable_keeps (h : C.At trace world) (hscope : C.scope world scope)
    (name : String) : C.Keeps (C.failure trace) C.Holds world (readVariable ev scope name) := by
  refine keeps_get ?_
  cases hfound : world.find? scope name with
  | some found =>
      cases found with
      | value v => exact hC.keeps_pure h.world (hC.find h.world hscope hfound)
      | thunk id => exact hC.force_keeps hev h id
  | none =>
      simp only
      split
      · exact hC.keeps_pure h.world (hC.inherited.leaf rfl)
      · exact hC.keeps_fail h.world ⟨by simp [CauseOf.category], rfl, rfl⟩

/-! ## Functions and their arguments -/

omit hev in
theorem functionOf_keeps {Q : World → FunctionRef → Prop} (h : C.At trace world) (v : Value)
    (hq : ∀ ref, Q world ref) : C.Keeps (C.failure trace) Q world (functionOf v) := by
  unfold functionOf
  split
  · exact hC.keeps_pure h.world (hq _)
  · exact hC.keeps_fail h.world (mismatch_regular _ _).toPlain

theorem resolveFunction_keeps (h : C.At trace world) (hscope : C.scope world scope)
    (name : String) :
    C.Keeps (C.failure trace) (fun _ _ => True) world (resolveFunction ev scope name) := by
  refine keeps_get ?_
  split
  · exact hC.keeps_pure h.world trivial
  · exact hC.keeps_fail h.world ⟨by simp [CauseOf.category], rfl, rfl⟩
  · exact hC.keeps_fail h.world ⟨by simp [CauseOf.category], rfl, rfl⟩
  · split
    · refine hC.keeps_bind (hC.readVariable_keeps hev h hscope name) ?_
      intro v after hnext _
      exact hC.functionOf_keeps (hnext.at h) v fun _ => trivial
    · exact hC.keeps_fail h.world ⟨by simp [CauseOf.category], rfl, rfl⟩

omit hev in
theorem callableOf_keeps (h : C.At trace world) (ref : FunctionRef) :
    C.Keeps (C.failure trace)
      (fun after callable =>
        C.Function after callable ∧ after.defs.function? ref = some callable)
      world (callableOf ref) := by
  refine keeps_get ?_
  split
  · rename_i callable hcallable
    exact hC.keeps_pure h.world ⟨hC.function h.world hcallable, hcallable⟩
  · exact hC.keeps_fail h.world ⟨by simp [CauseOf.category], rfl, rfl⟩

omit hC hev in
theorem spec_of_function {callable : Callable} (h : C.Function world callable) :
    ∀ node ∈ LambdaParts.defaults callable.spec, C.node node := by
  cases callable with
  | closure closure => exact fun node hnode => h.1 node (List.mem_append_left _ hnode)
  | native native => exact h.1

omit hev in
theorem bound_spec {ref : FunctionRef} {callable : Callable} {nodes : List Node}
    {bound : BoundArguments} (hw : C.world world)
    (hfound : world.defs.function? ref = some callable)
    (hbinds : bindArguments callable.spec nodes = .ok bound) : C.spec bound.spec := by
  obtain ⟨keywords, -, -, rfl⟩ := bindArguments_eq_ok hbinds
  exact hC.functionSpec hw hfound

omit hev in
theorem bindSite_keeps (h : C.At trace world) (site : Nat) {arguments : List Node}
    {ref : FunctionRef} {callable : Callable} (hcallable : C.Function world callable)
    (hfound : world.defs.function? ref = some callable)
    (hnodes : ∀ node ∈ arguments, C.node node) :
    C.Keeps (C.failure trace) (fun _ => C.Arguments) world
      (bindSite site arguments ref callable.spec) := by
  have hnew : C.Keeps (C.failure trace) (fun _ => C.Arguments) world (do
      let bound ← ofExcept (bindArguments callable.spec arguments)
      modify fun world => world.remember site ⟨ref.id, bound⟩
      return bound) := by
    -- binding leaves the world as it is, so what is remembered belongs to a function of that world
    refine hC.keeps_bind (Q := fun after bound => after = world ∧ bound.All C.node ∧
      bindArguments callable.spec arguments = .ok bound) (hC.keeps_ofExcept h.world
        (bindArguments_plainly callable.spec arguments (spec_of_function hcallable) hnodes).ran
          fun _ hbound => ⟨rfl, hbound⟩) ?_
    rintro bound after hnext ⟨rfl, hbound, hbinds⟩
    refine hC.keeps_bind (keeps_modify (S := fun _ _ => True)
      (hC.remember site hnext.world hbound ⟨callable, arguments, hfound, hbinds⟩) trivial) ?_
    intro _ last hlast _
    exact hC.keeps_pure hlast.world ⟨hbound, hC.bound_spec h.world hfound hbinds⟩
  refine keeps_get ?_
  cases hcached : world.cached? site with
  | none => exact hnew
  | some call =>
      simp only
      split
      · exact hC.keeps_pure h.world ⟨hC.cached h.world hcached, hC.cachedSpec h.world hcached⟩
      · exact hnew

theorem argumentValue_keeps {caller : FrameId} {bound : Bound} (h : C.At trace world)
    (hcaller : C.scope world caller) (hbound : ∀ node ∈ bound.nodes, C.node node) :
    C.Keeps (C.raised trace) C.Holds world (argumentValue ev caller bound) := by
  cases bound with
  | missing => exact hC.keeps_pure h.world (hC.inherited.leaf rfl)
  | single node =>
      exact hev.node h (hC.scope_enter hcaller) (hbound node (by simp [Bound.nodes]))
  | rest nodes =>
      refine hC.keeps_bind (hC.values_keeps hev h (hC.scope_enter hcaller) hbound) ?_
      intro vs after hnext hvs
      exact hC.keeps_pure hnext.world (hC.inherited.list hvs)

theorem argumentValues_keeps {caller : FrameId} {bounds : List Bound} (h : C.At trace world)
    (hcaller : C.scope world caller)
    (hbounds : ∀ bound ∈ bounds, ∀ node ∈ bound.nodes, C.node node) :
    C.Keeps (C.raised trace) (fun _ vs => ∀ v ∈ vs, C.value v) world
      (argumentValues ev caller bounds) := by
  induction bounds generalizing world with
  | nil => exact hC.keeps_pure h.world (by simp)
  | cons bound bounds ih =>
      refine hC.keeps_bind (hC.argumentValue_keeps hev h hcaller (hbounds bound (by simp))) ?_
      intro v after hnext hv
      refine hC.keeps_bind (ih (hnext.at h) (hC.scope_mono hnext.change hcaller)
        (fun b hb => hbounds b (by simp [hb]))) ?_
      intro vs last hlast hvs
      exact hC.keeps_pure hlast.world (List.forall_mem_cons.mpr ⟨hv, hvs⟩)

theorem defaultValue_keeps {frame : FrameId} {p : Parameter Node} (h : C.At trace world)
    (hframe : C.enter world frame) (hp : ∀ node, p.default = some node → C.node node) :
    C.Keeps (C.raised trace) C.Holds world (defaultValue ev frame p) := by
  unfold defaultValue
  split
  · rename_i node hdefault
    exact hev.node h hframe (hp node hdefault)
  · refine hC.keeps_pure h.world ?_
    unfold Contract.Holds
    split
    · exact hC.inherited.list (by simp)
    · exact hC.inherited.leaf rfl

theorem parameterSlot_keeps {caller frame : FrameId} {p : Parameter Node} {bound : Bound}
    (h : C.At trace world) (hcaller : C.scope world caller) (hframe : C.enter world frame)
    (hp : ∀ node, p.default = some node → C.node node)
    (hbound : ∀ node ∈ bound.nodes, C.node node) :
    C.Keeps (C.raised trace) (fun _ filled => C.Content filled.1) world
      (parameterSlot ev caller frame p bound) := by
  cases bound with
  | missing =>
      refine hC.keeps_bind (hC.defaultValue_keeps hev h hframe hp) ?_
      intro v after hnext hv
      exact hC.keeps_pure hnext.world hv
  | single node =>
      have hnode := hbound node (by simp [Bound.nodes])
      simp only [parameterSlot]
      split
      · refine hC.keeps_bind (keeps_modifyGet (Q := fun _ _ => True)
          (hC.addThunk h.world hnode hcaller) trivial) ?_
        intro id after hnext _
        exact hC.keeps_pure hnext.world trivial
      · refine hC.keeps_bind (hev.node h (hC.scope_enter hcaller) hnode) ?_
        intro v after hnext hv
        exact hC.keeps_pure hnext.world hv
  | rest nodes =>
      refine hC.keeps_bind (hC.values_keeps hev h (hC.scope_enter hcaller) hbound) ?_
      intro vs after hnext hvs
      exact hC.keeps_pure hnext.world (hC.inherited.list hvs)

theorem fillSlots_keeps {caller frame : FrameId} {index : Nat} {ps : List (Parameter Node)}
    {bounds : List Bound} (h : C.At trace world) (hcaller : C.scope world caller)
    (hframe : C.own world frame) (hps : ∀ p ∈ ps, ∀ node, p.default = some node → C.node node)
    (hbounds : ∀ bound ∈ bounds, ∀ node ∈ bound.nodes, C.node node) :
    C.Keeps (C.raised trace) (fun after _ => C.own after frame) world
      (fillSlots ev caller frame index ps bounds) := by
  induction ps generalizing world index bounds with
  | nil =>
      unfold fillSlots
      exact hC.keeps_pure h.world hframe
  | cons p ps ih =>
      cases bounds with
      | nil =>
          unfold fillSlots
          exact hC.keeps_pure h.world hframe
      | cons bound bounds =>
          unfold fillSlots
          refine hC.keeps_bind (hC.parameterSlot_keeps hev h hcaller
            (hC.scope_enter (hC.own_scope hframe)) (hps p (by simp))
            (hbounds bound (by simp))) ?_
          intro filled after hnext hfilled
          have hfill := hC.fillSlot index filled.2 hnext.world
            (hC.own_mono hnext.change hframe) hfilled
          refine hC.keeps_bind (keeps_modify (S := fun _ _ => True) hfill trivial) ?_
          intro _ last hlast _
          have hboth := hC.next_trans hnext hlast
          exact ih (hboth.at h) (hC.scope_mono hboth.change hcaller)
            (hC.own_mono hboth.change hframe) (fun q hq => hps q (by simp [hq]))
            (fun b hb => hbounds b (by simp [hb]))

theorem callFrame_keeps {caller defining : FrameId} {arguments : BoundArguments}
    (h : C.At trace world) (hcaller : C.scope world caller) (hdefining : C.scope world defining)
    (harguments : C.Arguments arguments) :
    C.Keeps (C.raised trace) C.own world (callFrame ev caller defining arguments) := by
  have hadded := hC.addCallFrame arguments.spec h.world hdefining harguments.2
  refine hC.keeps_bind (keeps_modifyGet hadded.1 hadded.2) ?_
  intro frame after hnext hframe
  refine hC.keeps_bind (hC.fillSlots_keeps hev (hnext.at h)
    (hC.scope_mono hnext.change hcaller) hframe ?_ harguments.1.2) ?_
  · intro p hp node hdefault
    exact harguments.1.1 node (List.mem_filterMap.mpr ⟨p, hp, hdefault⟩)
  · intro _ last hlast hown
    exact hC.keeps_pure hlast.world hown

/-! ## Calls -/

theorem runHost_keeps {parameters : List Node} {action : HostAction} (hosted : C.hosted)
    (h : C.At trace world) (hscope : C.enter world scope)
    (hparameters : ∀ node ∈ parameters, C.node node)
    (haction : action.Keeps C.value (C.failure trace)) :
    C.Keeps (C.failure trace) C.Holds world (runHost ev scope parameters action) := by
  induction action generalizing world with
  | yield v => exact hC.keeps_pure h.world haction
  | fail failure => exact hC.keeps_failed h.world haction
  | leave v => exact hC.keeps_returned h.world haction
  | call callee arguments next ih =>
      refine hC.keeps_bind (hev.call hosted h haction.1 callee) ?_
      intro v after hnext hv
      exact ih v (hnext.at h) (hC.enter_mono hnext hscope) (haction.2 v hv)
  | evaluate index next ih =>
      unfold runHost
      split
      · exact hC.keeps_fail h.world ⟨by simp [CauseOf.category], rfl, rfl⟩
      · rename_i node hnode
        have hmember : node ∈ parameters := List.mem_of_getElem? hnode
        refine hC.keeps_bind ((hev.node h hscope (hparameters node hmember)).error
          fun _ => hC.leaving) ?_
        intro v after hnext hv
        exact ih v (hnext.at h) (hC.enter_mono hnext hscope) (haction v hv)

theorem runNative_keeps {caller : FrameId} {native : Native} {arguments : List Value}
    (h : C.At trace world) (hcaller : C.scope world caller)
    (hnative : C.Function world (.native native)) (harguments : ∀ v ∈ arguments, C.value v) :
    C.Keeps (C.failure trace) C.Holds world (runNative ev caller native.code arguments) := by
  obtain ⟨-, hcode⟩ := hnative
  cases hkind : native.code with
  | primitive primitive =>
      change C.Keeps _ _ world (ofExcept (primitive.run arguments))
      rcases primitive_plainly hC.inherited primitive harguments with hplainly | ⟨-, hmissing⟩
      · exact hC.keeps_ofExcept h.world hplainly fun _ hv => hv
      · rw [hmissing]
        exact hC.keeps_fail h.world ⟨by simp [CauseOf.category], rfl, rfl⟩
  | host run =>
      rw [hkind] at hcode
      obtain ⟨hosted, hrun⟩ := hcode
      refine keeps_get ?_
      refine hC.runHost_keeps hev hosted h (hC.scope_enter hcaller) (by simp) ?_
      simpa only [h.trace] using hrun arguments harguments

omit hev in
theorem function_mono {before after : World} {callable : Callable} (hnext : C.Next before after)
    (h : C.Function before callable) : C.Function after callable := by
  cases callable with
  | closure closure => exact ⟨h.1, hC.scope_mono hnext.change h.2⟩
  | native native =>
      refine ⟨h.1, ?_⟩
      have hcode := h.2
      rw [← hnext.trace] at hcode
      exact hcode

theorem invoke_keeps {caller : FrameId} {callable : Callable} {arguments : BoundArguments}
    (h : C.At trace world) (hcaller : C.scope world caller)
    (hcallable : C.Function world callable) (harguments : C.Arguments arguments) :
    C.Keeps (C.failure trace) C.Holds world (invoke ev caller callable arguments) := by
  cases callable with
  | closure closure =>
      obtain ⟨hparts, hdefining⟩ := hcallable
      refine hC.keeps_bind ((hC.callFrame_keeps hev h hcaller hdefining harguments).error
        fun _ => hC.leaving) ?_
      intro frame after hnext hframe
      refine (hC.catchReturn_keeps (hC.body_keeps hev (hnext.at h)
        (hC.scope_enter (hC.own_scope hframe)) ?_ (hC.inherited.leaf rfl))).error
          fun _ => hC.leaving
      intro node hnode
      exact hparts node (List.mem_append_right _ hnode)
  | native native =>
      refine hC.keeps_bind ((hC.argumentValues_keeps hev h hcaller harguments.1.2).error
        fun _ => hC.leaving) ?_
      intro vs after hnext hvs
      exact hC.runNative_keeps hev (hnext.at h) (hC.scope_mono hnext.change hcaller)
        (function_mono hC hnext hcallable) hvs

theorem callFunction_keeps {arguments : List Value} (h : C.At trace world) (ref : FunctionRef)
    (harguments : ∀ v ∈ arguments, C.value v) :
    C.Keeps (C.failure trace) C.Holds world (callFunction ev ref arguments) := by
  refine hC.keeps_bind (hC.callableOf_keeps h ref) ?_
  rintro callable after hnext ⟨hcallable, hfound⟩
  have hnodes : ∀ node ∈ arguments.map (Node.ofValue · none), C.node node := by
    intro node hnode
    obtain ⟨v, hv, rfl⟩ := List.mem_map.mp hnode
    exact hC.ofValue (harguments v hv)
  refine hC.keeps_bind (Q := fun _ => C.Arguments) (hC.keeps_ofExcept hnext.world
    (bindArguments_plainly callable.spec _ (spec_of_function hcallable) hnodes).ran
      fun _ hbound => ⟨hbound.1, hC.bound_spec hnext.world hfound hbound.2⟩) ?_
  intro bound last hlast hbound
  have hboth := hC.next_trans hnext hlast
  exact hC.invoke_keeps hev (hboth.at h) (hC.root hlast.world)
    (function_mono hC hlast hcallable) hbound

theorem callSite_keeps {arguments : List Node} (h : C.At trace world)
    (hscope : C.scope world scope) (site : Nat) (ref : FunctionRef)
    (harguments : ∀ node ∈ arguments, C.node node) :
    C.Keeps (C.failure trace) C.Holds world (callSite ev scope site arguments ref) := by
  refine hC.keeps_bind (hC.callableOf_keeps h ref) ?_
  rintro callable after hnext ⟨hcallable, hfound⟩
  refine hC.keeps_bind (hC.bindSite_keeps (hnext.at h) site hcallable hfound harguments) ?_
  intro bound last hlast hbound
  have hboth := hC.next_trans hnext hlast
  exact hC.invoke_keeps hev (hboth.at h) (hC.scope_mono hboth.change hscope)
    (function_mono hC hlast hcallable) hbound

/-! ## Code -/

theorem ifElse_keeps {test onTrue : Node} {onFalse : List Node} (h : C.At trace world)
    (hscope : C.enter world scope) (htest : C.node test) (htrue : C.node onTrue)
    (hfalse : ∀ node ∈ onFalse, C.node node) :
    C.Keeps (C.raised trace) C.Holds world (ifElse ev scope test onTrue onFalse) := by
  refine hC.keeps_bind (hev.node h hscope htest) ?_
  intro v after hnext _
  have hscope' := hC.enter_mono hnext hscope
  split
  · exact hev.node (hnext.at h) hscope' htrue
  · exact hC.body_keeps hev (hnext.at h) hscope' hfalse (hC.inherited.leaf rfl)

theorem cond_keeps {clauses : List (Node × List Node)} (h : C.At trace world)
    (hscope : C.enter world scope)
    (hclauses : ∀ clause ∈ clauses, C.node clause.1 ∧ ∀ node ∈ clause.2, C.node node) :
    C.Keeps (C.raised trace) C.Holds world (cond ev scope clauses) := by
  induction clauses generalizing world with
  | nil => exact hC.keeps_pure h.world (hC.inherited.leaf rfl)
  | cons clause clauses ih =>
      obtain ⟨htest, hbody⟩ := hclauses clause (by simp)
      refine hC.keeps_bind (hev.node h hscope htest) ?_
      intro v after hnext hv
      have hscope' := hC.enter_mono hnext hscope
      split
      · split
        · exact hC.keeps_pure hnext.world hv
        · exact hC.body_keeps hev (hnext.at h) hscope' hbody (hC.inherited.leaf rfl)
      · exact ih (hnext.at h) hscope' fun c hc => hclauses c (by simp [hc])

theorem allOf_keeps {nodes : List Node} {last : Value} (h : C.At trace world)
    (hscope : C.enter world scope) (hnodes : ∀ node ∈ nodes, C.node node) (hlast : C.value last) :
    C.Keeps (C.raised trace) C.Holds world (allOf ev scope last nodes) := by
  induction nodes generalizing world last with
  | nil => exact hC.keeps_pure h.world hlast
  | cons node nodes ih =>
      refine hC.keeps_bind (hev.node h hscope (hnodes node (by simp))) ?_
      intro v after hnext hv
      split
      · exact ih (hnext.at h) (hC.enter_mono hnext hscope)
          (fun n hn => hnodes n (by simp [hn])) hv
      · exact hC.keeps_pure hnext.world hv

theorem anyOf_keeps {nodes : List Node} (h : C.At trace world) (hscope : C.enter world scope)
    (hnodes : ∀ node ∈ nodes, C.node node) :
    C.Keeps (C.raised trace) C.Holds world (anyOf ev scope nodes) := by
  induction nodes generalizing world with
  | nil => exact hC.keeps_pure h.world (hC.inherited.leaf rfl)
  | cons node nodes ih =>
      refine hC.keeps_bind (hev.node h hscope (hnodes node (by simp))) ?_
      intro v after hnext hv
      split
      · exact hC.keeps_pure hnext.world hv
      · exact ih (hnext.at h) (hC.enter_mono hnext hscope) fun n hn => hnodes n (by simp [hn])

theorem whileLoop_keeps {test : Node} {nodes : List Node} {last : Value} (fuel : Nat)
    (hhalt : ∀ world, C.world world → C.halted world) (h : C.At trace world)
    (hscope : C.enter world scope) (htest : C.node test)
    (hnodes : ∀ node ∈ nodes, C.node node) (hlast : C.value last) :
    C.Keeps (C.raised trace) C.Holds world (whileLoop ev scope test nodes fuel last) := by
  induction fuel generalizing world last with
  | zero => exact hhalt world h.world
  | succ fuel ih =>
      refine hC.keeps_bind (hev.node h hscope htest) ?_
      intro v after hnext _
      have hscope' := hC.enter_mono hnext hscope
      split
      · refine hC.keeps_bind (hC.body_keeps hev (hnext.at h) hscope' hnodes
          (hC.inherited.leaf rfl)) ?_
        intro v final hfinal hv
        exact ih (hfinal.at (hnext.at h)) (hC.enter_mono hfinal hscope') hv
      · exact hC.keeps_pure hnext.world hlast

omit hev in
theorem elements_keeps {v : Value} (h : C.At trace world) (hv : C.value v) :
    C.Keeps (C.failure trace) (fun _ items => ∀ item ∈ items, C.value item) world
      (elements v) := by
  unfold elements
  split
  · exact hC.keeps_pure h.world (by simp)
  · exact hC.keeps_pure h.world (hC.inherited.items hv)
  · refine hC.keeps_pure h.world ?_
    intro item hitem
    obtain ⟨c, -, rfl⟩ := List.mem_map.mp hitem
    exact hC.inherited.leaf rfl
  · refine hC.keeps_pure h.world ?_
    intro item hitem
    obtain ⟨entry, hentry, rfl⟩ := List.mem_map.mp hitem
    exact hC.inherited.part hv (.entry hentry)
  · refine hC.keeps_pure h.world ?_
    intro item hitem
    obtain ⟨index, hindex, rfl⟩ := List.mem_map.mp hitem
    exact hC.inherited.part hv (.element (List.mem_range.mp hindex))
  · exact hC.keeps_fail h.world (mismatch_regular _ _).toPlain

theorem eachElement_keeps {nodes : List Node} {items : List Value} (name : String)
    (h : C.At trace world) (hscope : C.own world scope)
    (hnodes : ∀ node ∈ nodes, C.node node) (hitems : ∀ v ∈ items, C.value v) :
    C.Keeps (C.raised trace) (fun _ _ => True) world (eachElement ev scope name nodes items) := by
  induction items generalizing world with
  | nil => exact hC.keeps_pure h.world trivial
  | cons item items ih =>
      refine hC.keeps_bind (hC.setLocal_keeps h hscope name (hitems item (by simp))) ?_
      intro _ after hnext _
      have hscope' := hC.own_mono hnext.change hscope
      refine hC.keeps_bind (hC.body_keeps hev (hnext.at h)
        (hC.scope_enter (hC.own_scope hscope')) hnodes (hC.inherited.leaf rfl)) ?_
      intro _ last hlast _
      exact ih (hlast.at (hnext.at h)) (hC.own_mono hlast.change hscope')
        fun v hv => hitems v (by simp [hv])

theorem foreach_keeps {source : Node} {result : Option Node} {nodes : List Node} (name : String)
    (h : C.At trace world) (hscope : C.scope world scope) (hsource : C.node source)
    (hresult : ∀ node, result = some node → C.node node)
    (hnodes : ∀ node ∈ nodes, C.node node) :
    C.Keeps (C.failure trace) C.Holds world (foreach ev scope name source result nodes) := by
  refine hC.keeps_bind ((hev.node h (hC.scope_enter hscope) hsource).error
    fun _ => hC.leaving) ?_
  intro v w₁ h₁ hv
  refine hC.keeps_bind (hC.addChild_keeps (h₁.at h) (hC.scope_mono h₁.change hscope)) ?_
  intro inner w₂ h₂ hown₂
  have hat₂ := h₂.at (h₁.at h)
  refine hC.keeps_bind (hC.setLocal_keeps hat₂ hown₂ name (hC.inherited.leaf rfl)) ?_
  intro _ w₃ h₃ _
  refine hC.keeps_bind (hC.elements_keeps (h₃.at hat₂) hv) ?_
  intro items w₄ h₄ hitems
  have hown₄ := hC.own_mono h₄.change (hC.own_mono h₃.change hown₂)
  have hat₄ := h₄.at (h₃.at hat₂)
  refine hC.keeps_bind ((hC.eachElement_keeps hev name hat₄ hown₄ hnodes hitems).error
    fun _ => hC.leaving) ?_
  intro _ w₅ h₅ _
  have hown₅ := hC.own_mono h₅.change hown₄
  refine hC.keeps_bind (hC.setLocal_keeps (h₅.at hat₄) hown₅ name (hC.inherited.leaf rfl)) ?_
  intro _ w₆ h₆ _
  cases result with
  | none => exact hC.keeps_pure h₆.world (hC.inherited.leaf rfl)
  | some node =>
      exact (hev.node (h₆.at (h₅.at hat₄))
        (hC.scope_enter (hC.own_scope (hC.own_mono h₆.change hown₅)))
        (hresult node rfl)).error fun _ => hC.leaving

theorem returnWith_keeps {value : Option Node} (h : C.At trace world)
    (hscope : C.enter world scope) (hvalue : ∀ node, value = some node → C.node node) :
    C.Keeps (C.raised trace) C.Holds world (returnWith ev scope value) := by
  cases value with
  | none => exact hC.keeps_returned h.world (hC.inherited.leaf rfl)
  | some node =>
      refine hC.keeps_bind (hev.node h hscope (hvalue node rfl)) ?_
      intro v after hnext hv
      exact hC.keeps_returned hnext.world hv

theorem throwWith_keeps {message : Node} (kind : ErrorKind) (h : C.At trace world)
    (hscope : C.enter world scope) (hmessage : C.node message) :
    C.Keeps (C.failure trace) C.Holds world (throwWith ev scope kind message) := by
  refine hC.keeps_bind ((hev.node h hscope hmessage).error fun _ => hC.leaving) ?_
  intro v after hnext hv
  unfold throwValue
  split
  · exact hC.keeps_failed hnext.world (hC.plain ⟨by simp [CauseOf.category], rfl, rfl⟩)
  · exact hC.keeps_failed hnext.world (hC.rethrown hv)
  · exact hC.keeps_failed hnext.world (hC.thrown hv)

theorem pipeline_keeps {steps : List Node} {v : Value} (name : String) (h : C.At trace world)
    (hscope : C.scope world scope) (hsteps : ∀ node ∈ steps, C.node node) (hv : C.value v) :
    C.Keeps (C.raised trace) C.Holds world (pipeline ev scope name v steps) := by
  induction steps generalizing world v with
  | nil => exact hC.keeps_pure h.world hv
  | cons step steps ih =>
      refine hC.keeps_bind (hC.addChild_keeps h hscope) ?_
      intro inner w₁ h₁ hown
      refine hC.keeps_bind (hC.setLocal_keeps (h₁.at h) hown name hv) ?_
      intro _ w₂ h₂ _
      have hat₂ := h₂.at (h₁.at h)
      refine hC.keeps_bind (hev.node hat₂
        (hC.scope_enter (hC.own_scope (hC.own_mono h₂.change hown))) (hsteps step (by simp))) ?_
      intro next w₃ h₃ hnext
      have hscope₃ := hC.scope_mono h₃.change
        (hC.scope_mono h₂.change (hC.scope_mono h₁.change hscope))
      exact ih (h₃.at hat₂) hscope₃ (fun n hn => hsteps n (by simp [hn])) hnext

theorem defineAll_keeps {bindings : List (String × Option Node)} (h : C.At trace world)
    (hscope : C.own world scope)
    (hbindings : ∀ binding ∈ bindings, ∀ node, binding.2 = some node → C.node node) :
    C.Keeps (C.failure trace) (fun after _ => C.own after scope) world
      (defineAll ev scope bindings) := by
  induction bindings generalizing world with
  | nil => exact hC.keeps_pure h.world hscope
  | cons binding bindings ih =>
      obtain ⟨name, node⟩ := binding
      have hdefine : ∀ v w₁, C.Next world w₁ → C.value v →
          C.Keeps (C.failure trace) (fun after _ => C.own after scope) w₁ (do
            Eval.define scope name v
            defineAll ev scope bindings) := by
        intro v w₁ h₁ hv
        have hown₁ := hC.own_mono h₁.change hscope
        refine hC.keeps_bind (hC.define_keeps (h₁.at h) hown₁ name hv) ?_
        intro _ w₂ h₂ _
        exact ih (h₂.at (h₁.at h)) (hC.own_mono h₂.change hown₁)
          fun b hb => hbindings b (by simp [hb])
      cases node with
      | none => exact hdefine .nil world (hC.next_refl h.world) (hC.inherited.leaf rfl)
      | some node =>
          refine hC.keeps_bind ((hev.node h (hC.scope_enter (hC.own_scope hscope))
            (hbindings (name, some node) (by simp) node rfl)).error fun _ => hC.leaving) ?_
          exact hdefine

theorem letIn_keeps {bindings : List (String × Option Node)} {nodes : List Node}
    (h : C.At trace world) (hscope : C.scope world scope)
    (hbindings : ∀ binding ∈ bindings, ∀ node, binding.2 = some node → C.node node)
    (hnodes : ∀ node ∈ nodes, C.node node) :
    C.Keeps (C.failure trace) C.Holds world (letIn ev scope bindings nodes) := by
  refine hC.keeps_bind (hC.addChild_keeps h hscope) ?_
  intro inner w₁ h₁ hown
  refine hC.keeps_bind (hC.defineAll_keeps hev (h₁.at h) hown hbindings) ?_
  intro _ w₂ h₂ hown₂
  exact (hC.body_keeps hev (h₂.at (h₁.at h)) (hC.scope_enter (hC.own_scope hown₂)) hnodes
    (hC.inherited.leaf rfl)).error fun _ => hC.leaving

omit hev in
theorem defineItems_keeps {names : List String} {items : List Value} (h : C.At trace world)
    (hscope : C.own world scope) (hitems : ∀ v ∈ items, C.value v) :
    C.Keeps (C.failure trace) (fun after left => C.own after scope ∧ ∀ v ∈ left, C.value v) world
      (defineItems scope names items) := by
  induction names generalizing world items with
  | nil => exact hC.keeps_pure h.world ⟨hscope, hitems⟩
  | cons name names ih =>
      have hfirst : C.value (items.headD .nil) := by
        cases items with
        | nil => exact hC.inherited.leaf rfl
        | cons item items => exact hitems item (by simp)
      refine hC.keeps_bind (hC.define_keeps h hscope name hfirst) ?_
      intro _ after hnext _
      exact ih (hnext.at h) (hC.own_mono hnext.change hscope)
        fun v hv => hitems v (List.mem_of_mem_drop hv)

omit hev in
theorem listItems_keeps {v : Value} (h : C.At trace world) (hv : C.value v) :
    C.Keeps (C.failure trace) (fun _ items => ∀ item ∈ items, C.value item) world
      (listItems v) := by
  unfold listItems
  split
  · exact hC.keeps_pure h.world (by simp)
  · exact hC.keeps_pure h.world (hC.inherited.items hv)
  · exact hC.keeps_fail h.world (mismatch_regular _ _).toPlain

theorem destructure_keeps {names : List String} {restName : Option String} {source : Node}
    {nodes : List Node} (h : C.At trace world) (hscope : C.scope world scope)
    (hsource : C.node source) (hnodes : ∀ node ∈ nodes, C.node node) :
    C.Keeps (C.failure trace) C.Holds world
      (destructure ev scope names restName source nodes) := by
  refine hC.keeps_bind ((hev.node h (hC.scope_enter hscope) hsource).error
    fun _ => hC.leaving) ?_
  intro v w₁ h₁ hv
  refine hC.keeps_bind (hC.listItems_keeps (h₁.at h) hv) ?_
  intro items w₂ h₂ hitems
  have hat₂ := h₂.at (h₁.at h)
  refine hC.keeps_bind (hC.addChild_keeps hat₂
    (hC.scope_mono h₂.change (hC.scope_mono h₁.change hscope))) ?_
  intro inner w₃ h₃ hown₃
  refine hC.keeps_bind (hC.defineItems_keeps (h₃.at hat₂) hown₃ hitems) ?_
  rintro left w₄ h₄ ⟨hown₄, hleft⟩
  have hat₄ := h₄.at (h₃.at hat₂)
  have hbody : ∀ after, C.Next w₄ after →
      C.Keeps (C.failure trace) C.Holds after (body ev inner .nil nodes) := by
    intro after hnext
    exact (hC.body_keeps hev (hnext.at hat₄)
      (hC.scope_enter (hC.own_scope (hC.own_mono hnext.change hown₄))) hnodes
      (hC.inherited.leaf rfl)).error fun _ => hC.leaving
  cases restName with
  | none => exact hbody w₄ (hC.next_refl h₄.world)
  | some name =>
      refine hC.keeps_bind (hC.define_keeps hat₄ hown₄ name (hC.inherited.list hleft)) ?_
      intro _ w₅ h₅ _
      exact hbody w₅ h₅

theorem assign_keeps {node : Node} {discipline : Discipline} {pairs : List (String × Node)}
    {last : Value} {all : List (String × Node)} (h : C.At trace world)
    (hscope : C.scope world scope) (hnode : C.node node)
    (hcode : node.code = .ofForm (.assign discipline all)) (hpairs : ∀ pair ∈ pairs, C.node pair.2)
    (hlast : C.value last) :
    C.Keeps (C.raised trace) C.Holds world (assign ev scope discipline last pairs) := by
  induction pairs generalizing world last with
  | nil => exact hC.keeps_pure h.world hlast
  | cons pair pairs ih =>
      refine hC.keeps_bind (hev.node h (hC.scope_enter hscope) (hpairs pair (by simp))) ?_
      intro v w₁ h₁ hv
      have hscope₁ := hC.scope_mono h₁.change hscope
      refine hC.keeps_bind (keeps_modify (S := fun _ _ => True)
        (hC.update pair.1 hnode hcode h₁.world hscope₁ hv) trivial) ?_
      intro _ w₂ h₂ _
      exact ih (h₂.at (h₁.at h)) (hC.scope_mono h₂.change hscope₁)
        (fun p hp => hpairs p (by simp [hp])) hv

omit hev in
theorem close_keeps {E : Failure → Prop} {parts : LambdaParts Node} (name : Option String)
    (h : C.At trace world) (hscope : C.scope world scope)
    (hparts : ∀ node ∈ parts.children, C.node node) (hspec : C.spec parts.spec) :
    C.Keeps E (fun _ _ => True) world (Eval.close scope name parts) :=
  keeps_modifyGet (hC.close name h.world hscope hparts hspec) trivial

omit hev in
theorem defun_keeps {E : Failure → Prop} {node : Node} {name : String} {parts : LambdaParts Node}
    (h : C.At trace world) (hscope : C.scope world scope) (hnode : C.node node)
    (hcode : node.code = .ofForm (.defun name parts))
    (hparts : ∀ node ∈ parts.children, C.node node) :
    C.Keeps E C.Holds world (defun scope name parts) := by
  have hspec : C.spec parts.spec := hC.parts hnode hcode rfl
  refine hC.keeps_bind (hC.close_keeps (some name) h hscope hparts hspec) ?_
  intro ref w₁ h₁ _
  refine hC.keeps_bind (keeps_modify (S := fun _ _ => True)
    (hC.defineFunction ref hnode hcode h₁.world) trivial) ?_
  intro _ w₂ h₂ _
  exact hC.keeps_pure h₂.world (hC.inherited.leaf rfl)

theorem handle_keeps {catches : List (CatchClause Node)} {failure : Failure}
    (h : C.At trace world) (hscope : C.scope world scope)
    (hcatches : ∀ clause ∈ catches, ∀ node ∈ clause.body, C.node node)
    (hfailure : C.raised trace failure) :
    C.Keeps (C.raised trace) C.Holds world (handle ev scope catches failure) := by
  unfold Keeps
  cases hfind : catches.find? fun clause => failure.kind.isA clause.kind with
  | none =>
      rw [handle_none hfind]
      exact ⟨hC.next_refl h.world, hfailure⟩
  | some clause =>
      rw [handle_some hfind]
      have hadded := hC.addHandler clause.variableName h.world hscope (h.trace ▸ hfailure)
      exact hC.outcome_trans hadded.1 (hC.body_keeps hev (hadded.1.at h) hadded.2
        (hcatches clause (List.mem_of_find?_eq_some hfind)) (hC.inherited.leaf rfl))

theorem recover_keeps {catches : List (CatchClause Node)} {ending : Except Signal Value}
    (h : C.At trace world) (hscope : C.scope world scope)
    (hcatches : ∀ clause ∈ catches, ∀ node ∈ clause.body, C.node node)
    (hending : C.Ending (C.raised trace) C.Holds world ending) :
    C.Keeps (C.raised trace) C.Holds world (recover ev scope catches ending) := by
  cases ending with
  | ok v => exact hC.keeps_resume h.world hending
  | error signal =>
      cases signal with
      | failed failure => exact hC.handle_keeps hev h hscope hcatches hending
      | returned v => exact hC.keeps_resume h.world hending
      | exhausted => exact hending.elim

theorem finish_keeps {finalizer : Option (List Node)} {ending : Except Signal Value}
    (h : C.At trace world) (hscope : C.scope world scope)
    (hfinalizer : ∀ cleanup, finalizer = some cleanup → ∀ node ∈ cleanup, C.node node)
    (hending : C.Ending (C.raised trace) C.Holds world ending) :
    C.Keeps (C.raised trace) C.Holds world (finish ev scope finalizer ending) := by
  cases finalizer with
  | none => exact hC.keeps_resume h.world hending
  | some cleanup =>
      refine hC.keeps_bind (hC.body_keeps hev h (hC.scope_enter hscope) (hfinalizer cleanup rfl)
        (hC.inherited.leaf rfl)) ?_
      intro _ last hlast _
      -- an ending says nothing about the world it was observed in
      have hsame : C.Ending (C.raised trace) C.Holds last ending := hending
      exact hC.keeps_resume hlast.world hsame

theorem tryCatch_keeps {nodes : List Node} {catches : List (CatchClause Node)}
    {finalizer : Option (List Node)} (h : C.At trace world) (hscope : C.scope world scope)
    (hnodes : ∀ node ∈ nodes, C.node node)
    (hcatches : ∀ clause ∈ catches, ∀ node ∈ clause.body, C.node node)
    (hfinalizer : ∀ cleanup, finalizer = some cleanup → ∀ node ∈ cleanup, C.node node) :
    C.Keeps (C.raised trace) C.Holds world (tryCatch ev scope nodes catches finalizer) := by
  have hprotected : C.Keeps (C.raised trace) C.Holds world (body ev scope .nil nodes) :=
    hC.body_keeps hev h (hC.scope_enter hscope) hnodes (hC.inherited.leaf rfl)
  rw [tryCatch_eq]
  refine hC.keeps_bind (Q := C.Ending (C.raised trace) C.Holds) (keeps_observe
    (hC.keeps_bind (keeps_observe hprotected) ?_)) ?_
  · intro ending after hnext hending
    exact hC.recover_keeps hev (hnext.at h) (hC.scope_mono hnext.change hscope) hcatches hending
  · intro ending after hnext hending
    exact hC.finish_keeps hev (hnext.at h) (hC.scope_mono hnext.change hscope) hfinalizer hending

theorem callee_keeps {next : FunctionRef → Eval Value} {callee : Node} (h : C.At trace world)
    (hscope : C.enter world scope) (hcallee : C.node callee)
    (hrest : ∀ ref after, C.Next world after →
      C.Keeps (C.failure trace) C.Holds after (next ref)) :
    C.Keeps (C.failure trace) C.Holds world (do
      let ref ← functionOf (← ev.node scope callee)
      next ref) := by
  refine hC.keeps_bind ((hev.node h hscope hcallee).error fun _ => hC.leaving) ?_
  intro v w₁ h₁ _
  refine hC.keeps_bind (Q := fun _ _ => True) (hC.functionOf_keeps (h₁.at h) v
    fun _ => trivial) ?_
  intro ref w₂ h₂ _
  exact hrest ref w₂ (hC.next_trans h₁ h₂)

theorem funcall_keeps {callee : Node} {arguments : List Node} (h : C.At trace world)
    (hscope : C.enter world scope) (hcallee : C.node callee)
    (harguments : ∀ node ∈ arguments, C.node node) :
    C.Keeps (C.failure trace) C.Holds world (funcall ev scope callee arguments) := by
  refine hC.callee_keeps hev h hscope hcallee ?_
  intro ref w₁ h₁
  refine hC.keeps_bind ((hC.values_keeps hev (h₁.at h) (hC.enter_mono h₁ hscope)
    harguments).error fun _ => hC.leaving) ?_
  intro vs w₂ h₂ hvs
  exact hC.callFunction_keeps hev (h₂.at (h₁.at h)) ref hvs

omit hev in
theorem spreadArguments_keeps {vs : List Value} (h : C.At trace world)
    (hvs : ∀ v ∈ vs, C.value v) :
    C.Keeps (C.failure trace) (fun _ items => ∀ v ∈ items, C.value v) world
      (spreadArguments vs) := by
  fun_induction spreadArguments vs with
  | case1 => exact hC.keeps_fail h.world ⟨by simp [CauseOf.category], rfl, rfl⟩
  | case2 items => exact hC.keeps_pure h.world (hC.inherited.items (hvs _ (by simp)))
  | case3 => exact hC.keeps_pure h.world (by simp)
  | case4 v => exact hC.keeps_fail h.world (mismatch_regular _ _).toPlain
  | case5 v vs _ _ _ ih =>
      refine hC.keeps_bind (ih fun x hx => hvs x (by simp [hx])) ?_
      intro items after hnext hitems
      exact hC.keeps_pure hnext.world
        (List.forall_mem_cons.mpr ⟨hvs v (by simp), hitems⟩)

theorem applyList_keeps {callee : Node} {arguments : List Node} (h : C.At trace world)
    (hscope : C.enter world scope) (hcallee : C.node callee)
    (harguments : ∀ node ∈ arguments, C.node node) :
    C.Keeps (C.failure trace) C.Holds world (applyList ev scope callee arguments) := by
  refine hC.callee_keeps hev h hscope hcallee ?_
  intro ref w₁ h₁
  refine hC.keeps_bind ((hC.values_keeps hev (h₁.at h) (hC.enter_mono h₁ hscope)
    harguments).error fun _ => hC.leaving) ?_
  intro vs w₂ h₂ hvs
  have hat₂ := h₂.at (h₁.at h)
  refine hC.keeps_bind (hC.spreadArguments_keeps hat₂ hvs) ?_
  intro items w₃ h₃ hitems
  exact hC.callFunction_keeps hev (h₃.at hat₂) ref hitems

theorem form_keeps {node : Node} {parameters : BuiltIn} (fuel : Nat) (h : C.At trace world)
    (hscope : C.scope world scope) (hnode : C.node node)
    (hcode : node.code = .ofForm parameters) :
    C.Keeps (C.failure trace) C.Holds world (form ev fuel scope parameters) := by
  have hchild : ∀ child ∈ parameters.children, C.node child := by
    intro child hmem
    refine hC.child hnode ?_
    rw [hcode]
    exact hmem
  have henter := hC.scope_enter hscope
  have hnil : C.value .nil := hC.inherited.leaf rfl
  -- failures of inner nodes are failures of this form
  have hleave {action : Eval Value} (hkeeps : C.Keeps (C.raised trace) C.Holds world action) :
      C.Keeps (C.failure trace) C.Holds world action := hkeeps.error fun _ => hC.leaving
  cases parameters with
  | quote v =>
      have hconstant : node.constant? = some v := by rw [Node.constant?, hcode]; rfl
      exact hC.keeps_pure h.world (hC.constant hnode hconstant)
  | sequence nodes =>
      exact hleave (hC.body_keeps hev h henter hchild hnil)
  | ifElse test onTrue onFalse =>
      simp only [FormOf.children, List.forall_mem_cons] at hchild
      exact hleave (hC.ifElse_keeps hev h henter hchild.1 hchild.2.1 hchild.2.2)
  | cond clauses =>
      refine hleave (hC.cond_keeps hev h henter ?_)
      intro clause hclause
      have hmember : ∀ child ∈ clause.1 :: clause.2, C.node child := by
        intro child hmem
        exact hchild child (List.mem_flatMap.mpr ⟨clause, hclause, hmem⟩)
      exact List.forall_mem_cons.mp hmember
  | whenTrue test nodes =>
      simp only [FormOf.children, List.forall_mem_cons] at hchild
      refine hleave (hC.keeps_bind (hev.node h henter hchild.1) ?_)
      intro v after hnext _
      split
      · exact hC.body_keeps hev (hnext.at h) (hC.enter_mono hnext henter) hchild.2 hnil
      · exact hC.keeps_pure hnext.world hnil
  | whenFalse test nodes =>
      simp only [FormOf.children, List.forall_mem_cons] at hchild
      refine hleave (hC.keeps_bind (hev.node h henter hchild.1) ?_)
      intro v after hnext _
      split
      · exact hC.keeps_pure hnext.world hnil
      · exact hC.body_keeps hev (hnext.at h) (hC.enter_mono hnext henter) hchild.2 hnil
  | allOf items =>
      exact hleave (hC.allOf_keeps hev h henter hchild (hC.inherited.leaf rfl))
  | anyOf items =>
      exact hleave (hC.anyOf_keeps hev h henter hchild)
  | whileLoop test nodes =>
      simp only [FormOf.children, List.forall_mem_cons] at hchild
      exact hleave (hC.whileLoop_keeps hev fuel (fun _ => hC.loop hnode hcode) h henter
        hchild.1 hchild.2 hnil)
  | foreach name source result nodes =>
      simp only [FormOf.children, List.cons_append, List.forall_mem_cons,
        List.forall_mem_append, Option.mem_toList] at hchild
      exact hC.foreach_keeps hev name h hscope hchild.1 hchild.2.1 hchild.2.2
  | returnWith value =>
      simp only [FormOf.children, Option.mem_toList] at hchild
      exact hleave (hC.returnWith_keeps hev h henter hchild)
  | throwWith kind message =>
      exact hC.throwWith_keeps hev kind h henter (hchild message List.mem_cons_self)
  | pipeline first steps =>
      simp only [FormOf.children, List.forall_mem_cons] at hchild
      refine hleave (hC.keeps_bind (hev.node h henter hchild.1) ?_)
      intro v after hnext hv
      exact hC.pipeline_keeps hev pipeVariable (hnext.at h) (hC.scope_mono hnext.change hscope)
        hchild.2 hv
  | letIn bindings nodes =>
      simp only [FormOf.children, List.forall_mem_append] at hchild
      refine hC.letIn_keeps hev h hscope ?_ hchild.2
      intro binding hbinding child hsome
      exact hchild.1 child (List.mem_filterMap.mpr ⟨binding, hbinding, hsome⟩)
  | destructure names restName source nodes =>
      simp only [FormOf.children, List.forall_mem_cons] at hchild
      exact hC.destructure_keeps hev h hscope hchild.1 hchild.2
  | assign discipline pairs =>
      simp only [FormOf.children, List.forall_mem_map] at hchild
      exact hleave (hC.assign_keeps hev h hscope hnode hcode hchild hnil)
  | lambda parts =>
      have hspec : C.spec parts.spec := hC.parts hnode hcode rfl
      refine hC.keeps_bind (hC.close_keeps none h hscope hchild hspec) ?_
      intro ref after hnext _
      exact hC.keeps_pure hnext.world (hC.inherited.leaf rfl)
  | defun name parts =>
      exact hC.defun_keeps h hscope hnode hcode hchild
  | functionNamed name =>
      refine hC.keeps_bind (hC.resolveFunction_keeps hev h hscope name) ?_
      intro ref after hnext _
      exact hC.keeps_pure hnext.world (hC.inherited.leaf rfl)
  | functionOf callee =>
      refine hC.callee_keeps hev h henter (hchild callee List.mem_cons_self) ?_
      intro ref after hnext
      exact hC.keeps_pure hnext.world (hC.inherited.leaf rfl)
  | tryCatch nodes catches finalizer =>
      simp only [FormOf.children, List.forall_mem_append] at hchild
      obtain ⟨⟨hnodes, hcatches⟩, hfinalizer⟩ := hchild
      refine hleave (hC.tryCatch_keeps hev h hscope hnodes ?_ ?_)
      · intro clause hclause child hmem
        exact hcatches child (List.mem_flatMap.mpr ⟨clause, hclause, hmem⟩)
      · rintro cleanup rfl
        exact hfinalizer
  | funcall callee arguments =>
      simp only [FormOf.children, List.forall_mem_cons] at hchild
      exact hC.funcall_keeps hev h henter hchild.1 hchild.2
  | applyList callee arguments =>
      simp only [FormOf.children, List.forall_mem_cons] at hchild
      exact hC.applyList_keeps hev h henter hchild.1 hchild.2

theorem code_keeps {node : Node} (fuel : Nat) (h : C.At trace world)
    (hscope : C.scope world scope) (hnode : C.node node) :
    C.Keeps (C.failure trace) C.Holds world (code ev fuel scope node.code) := by
  have hchild : ∀ child ∈ node.code.children, C.node child := fun _ => hC.child hnode
  have henter := hC.scope_enter hscope
  cases hcode : node.code with
  | literal v =>
      have hconstant : node.constant? = some v := by rw [Node.constant?, hcode]; rfl
      exact hC.keeps_pure h.world (hC.constant hnode hconstant)
  | readVariable name => exact hC.readVariable_keeps hev h hscope name
  | form slot =>
      obtain ⟨content⟩ := slot
      cases content with
      | none => exact hC.keeps_failed h.world (hC.unset trace hnode hcode)
      | some parameters => exact hC.form_keeps hev fuel h hscope hnode hcode
  | callNamed site name arguments =>
      rw [hcode] at hchild
      refine hC.keeps_bind (hC.resolveFunction_keeps hev h hscope name) ?_
      intro ref after hnext _
      exact hC.callSite_keeps hev (hnext.at h) (hC.scope_mono hnext.change hscope) site ref hchild
  | callComputed site callee arguments =>
      simp only [hcode, CodeOf.children, List.forall_mem_cons] at hchild
      refine hC.callee_keeps hev h henter hchild.1 ?_
      intro ref after hnext
      exact hC.callSite_keeps hev (hnext.at h) (hC.scope_mono hnext.change hscope) site ref
        hchild.2
  | host parameters action =>
      rw [hcode] at hchild
      obtain ⟨hosted, haction⟩ := hC.host trace hnode hcode
      exact hC.runHost_keeps hev hosted h henter hchild haction

end LispEngine.Contract.Sound
