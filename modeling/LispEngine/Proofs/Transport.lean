import Mathlib.Data.List.Forall2
import LispEngine.Proofs.Tracking

/-!
# Evaluations in displaced worlds

One lemma for each function of the evaluator: in a displaced world it does the same.
-/

namespace LispEngine

theorem forall₂_of_map_eq {α β γ : Type} {g : α → γ} {k : β → γ} {xs : List α} {ys : List β}
    (h : xs.map g = ys.map k) : List.Forall₂ (fun x y => g x = k y) xs ys := by
  rwa [← List.forall₂_eq_eq_eq, List.forall₂_map_left_iff, List.forall₂_map_right_iff] at h

/-- An evaluator does the same in a displaced world, for a node that is alike and the displaced
frame. -/
structure Evaluator.Tracks (mark : Nat) (spare : Frame) (ev : Evaluator) : Prop where
  node {count : Nat} {scope : FrameId} {node other : Node} (known : scope.index < count)
    (discreet : node.Discreet) (nodes : node.Alike (·.blur mark) other) :
    Eval.Tracks mark spare count (Value.Near mark) (ev.node scope node)
      (ev.node (scope.displace mark) other)
  call {count : Nat} (ref : FunctionRef) {vs ws : List Value} (values : AllNear mark vs ws) :
    Eval.Tracks mark spare count (Value.Near mark) (ev.call ref vs) (ev.call ref ws)

structure BoundArguments.Common (arguments other : BoundArguments) : Prop where
  same : arguments = other
  discreet : arguments.All Node.Discreet

namespace Eval

variable {α β : Type} {mark count : Nat} {spare : Frame} {ev : Evaluator}
  (h : ev.Tracks mark spare)

include h

theorem body_tracks {scope : FrameId} (hscope : scope.index < count) {last last' : Value}
    (hlast : last.Near mark last') {nodes : List Node} (hnodes : ∀ node ∈ nodes, node.Discreet) :
    Tracks mark spare count (Value.Near mark) (body ev scope last nodes)
      (body ev (scope.displace mark) last' nodes) := by
  induction nodes generalizing last last' with
  | nil => exact .pure hlast
  | cons node nodes ih =>
      obtain ⟨hnode, hrest⟩ := List.forall_mem_cons.mp hnodes
      exact (h.node hscope hnode rfl).bind fun v w hvalues => ih hvalues hrest

theorem values_tracks {scope : FrameId} (hscope : scope.index < count) {nodes others : List Node}
    (hnodes : ∀ node ∈ nodes, node.Discreet)
    (halike : nodes.map (·.rescope (·.blur mark)) = others.map (·.rescope (·.blur mark))) :
    Tracks mark spare count (AllNear mark) (values ev scope nodes)
      (values ev (scope.displace mark) others) := by
  replace halike := forall₂_of_map_eq halike
  induction halike with
  | nil => exact .pure rfl
  | cons hfirst _ ih =>
      obtain ⟨hnode, hrest⟩ := List.forall_mem_cons.mp hnodes
      refine (h.node hscope hnode hfirst).bind fun v w hvalues => ?_
      refine (ih hrest).bind fun vs ws hitems => .pure ?_
      simp [AllNear, AllAlike, hvalues, hitems]

theorem force_tracks (id : ThunkId) :
    Tracks mark spare count (Value.Near mark) (force ev id) (force ev id) := by
  intro world twin hshifted
  have hthunk := hshifted.displaced.thunks id.index
  unfold force
  simp only [run_get_bind]
  generalize hold : world.thunks[id.index]? = thunk, twin.thunks[id.index]? = other at hthunk
  cases hthunk with
  | none => exact .error rfl hshifted
  | some hsame =>
      cases hsame with
      | forcing => exact .error rfl hshifted
      | done values => exact .ok ⟨values, hshifted⟩
      | @pending node other hnodes scope =>
          obtain ⟨hnode, hscope⟩ := hshifted.grounded.thunks node scope (Array.mem_of_getElem? hold)
          have hafter : world.Shifted mark spare world.frames.size twin :=
            ⟨{ hshifted.grounded with known := Nat.le_refl _ }, hshifted.displaced⟩
          refine Tracks.recount hshifted.grounded.known ?_ hafter
          refine (setThunk_tracks id .forcing (by simp)).bind fun _ _ _ => ?_
          refine (h.node hscope hnode hnodes).observe.bind fun outcome other hsame => ?_
          cases hsame with
          | ok values =>
              exact (setThunk_tracks id (.done values) (by simp)).bind fun _ _ _ => .pure values
          | error signals =>
              refine (setThunk_tracks id (.pending hnodes scope) ?_).bind fun _ _ _ =>
                .throw signals
              rintro _ _ ⟨⟩
              exact ⟨hnode, hscope⟩

theorem readVariable_tracks (scope : FrameId) (name : String) :
    Tracks mark spare count (Value.Near mark) (readVariable ev scope name)
      (readVariable ev (scope.displace mark) name) := by
  intro world twin hshifted
  have hfind := hshifted.displaced.find?_eq hshifted.grounded.frames scope name
  unfold readVariable
  simp only [run_get_bind, hshifted.displaced.missingPolicy_eq]
  cases hfound : world.find? scope name with
  | none =>
      rw [hfound, Option.map_none, Option.map_eq_none_iff] at hfind
      rw [hfind]
      cases world.missingPolicy scope with
      | nil => exact .ok ⟨rfl, hshifted⟩
      | raise => exact .error rfl hshifted
  | some found =>
      rw [hfound] at hfind
      obtain ⟨other, hother, hsame⟩ := Option.map_eq_some_iff.mp hfind
      rw [hother]
      cases found with
      | value v =>
          cases other with
          | value w => exact .ok ⟨(Found.value.inj hsame).symm, hshifted⟩
          | thunk id => cases hsame
      | thunk id =>
          cases other with
          | value w => cases hsame
          | thunk place =>
              obtain rfl := Found.thunk.inj hsame
              exact force_tracks h place world twin hshifted

/-! ## Calls -/

omit h in
theorem functionOf_tracks {v w : Value} (hvalues : v.Near mark w) :
    Tracks mark spare count (· = ·) (functionOf v) (functionOf w) := by
  cases hvalues.cases with
  | same v =>
      unfold functionOf
      split
      · exact .pure rfl
      · exact .fail _
  | list items => exact .fail _
  | map values => exact .fail _
  | error failures => exact .fail _
  | object elements => exact .fail _

theorem resolveFunction_tracks (scope : FrameId) (name : String) :
    Tracks mark spare count (· = ·) (resolveFunction ev scope name)
      (resolveFunction ev (scope.displace mark) name) := by
  intro world twin hshifted
  have hentry := hshifted.displaced.entry?_eq name
  have hcontains := hshifted.displaced.contains_eq hshifted.grounded.frames scope name
  unfold resolveFunction
  simp only [run_get_bind, hentry, hcontains]
  cases (world.defs.entry? name).map Entry.kind with
  | none =>
      cases world.contains scope name with
      | false => exact .error rfl hshifted
      | true =>
          exact (readVariable_tracks h scope name).bind
            (fun v w hvalues => functionOf_tracks hvalues)
            world twin hshifted
  | some kind =>
      cases kind with
      | function ref => exact .ok ⟨rfl, hshifted⟩
      | form operator => exact .error rfl hshifted
      | expression operator => exact .error rfl hshifted

omit h in
theorem bindSite_tracks (site : Nat) {arguments : List Node} (ref : FunctionRef)
    {spec : LambdaList Node} (hspec : ∀ node ∈ LambdaParts.defaults spec, node.Discreet)
    (harguments : ∀ node ∈ arguments, node.Discreet) :
    Tracks mark spare count BoundArguments.Common
      (bindSite site arguments ref spec) (bindSite site arguments ref spec) := by
  have hnew : Tracks mark spare count BoundArguments.Common
      (do
        let bound ← ofExcept (bindArguments spec arguments)
        modify fun world => world.remember site ⟨ref.id, bound⟩
        return bound)
      (do
        let bound ← ofExcept (bindArguments spec arguments)
        modify fun world => world.remember site ⟨ref.id, bound⟩
        return bound) := by
    have hbound := bindArguments_plainly spec arguments hspec harguments
    cases hbind : bindArguments spec arguments with
    | error cause => exact .fail cause
    | ok bound =>
        rw [hbind] at hbound
        have hremember : Tracks mark spare count (fun _ _ => True)
            (modify fun world => world.remember site ⟨ref.id, bound⟩)
            (modify fun world => world.remember site ⟨ref.id, bound⟩) :=
          modify_tracks fun world twin hshifted =>
            ⟨hshifted.grounded.remember site hbound, hshifted.displaced.remember site _⟩
        have hcommon : bound.Common bound := ⟨rfl, hbound⟩
        exact hremember.bind fun _ _ _ => .pure hcommon
  intro world twin hshifted
  have hcached := hshifted.displaced.cached?_eq site
  unfold bindSite
  simp only [run_get_bind, hcached]
  cases hcall : world.cached? site with
  | none => exact hnew world twin hshifted
  | some call =>
      simp only
      split
      · exact .ok ⟨⟨rfl, hshifted.grounded.cached hcall⟩, hshifted⟩
      · exact hnew world twin hshifted

theorem argumentValue_tracks {caller : FrameId} (hcaller : caller.index < count)
    {bound other : Bound} (hbound : ∀ node ∈ bound.nodes, node.Discreet)
    (hsame : bound.rescope (·.blur mark) = other.rescope (·.blur mark)) :
    Tracks mark spare count (Value.Near mark) (argumentValue ev caller bound)
      (argumentValue ev (caller.displace mark) other) := by
  cases bound with
  | missing =>
      cases other with
      | missing => exact .pure rfl
      | _ => cases hsame
  | single node =>
      cases other with
      | single other =>
          exact h.node hcaller (hbound node (by simp [Bound.nodes])) (Bound.single.inj hsame)
      | _ => cases hsame
  | rest nodes =>
      cases other with
      | rest others =>
          refine (values_tracks h hcaller hbound (Bound.rest.inj hsame)).bind fun vs ws hitems => ?_
          exact .pure (by simpa [Value.Near, Value.Alike] using hitems)
      | _ => cases hsame

theorem argumentValues_tracks {caller : FrameId} (hcaller : caller.index < count)
    {bounds others : List Bound} (hbounds : ∀ bound ∈ bounds, ∀ node ∈ bound.nodes, node.Discreet)
    (hsame : bounds.map (·.rescope (·.blur mark)) = others.map (·.rescope (·.blur mark))) :
    Tracks mark spare count (AllNear mark) (argumentValues ev caller bounds)
      (argumentValues ev (caller.displace mark) others) := by
  replace hsame := forall₂_of_map_eq hsame
  induction hsame with
  | nil => exact .pure rfl
  | cons hfirst _ ih =>
      obtain ⟨hbound, hrest⟩ := List.forall_mem_cons.mp hbounds
      refine (argumentValue_tracks h hcaller hbound hfirst).bind fun v w hvalues => ?_
      refine (ih hrest).bind fun vs ws hitems => .pure ?_
      simp [AllNear, AllAlike, hvalues, hitems]

theorem parameterSlot_tracks {caller frame : FrameId} (hcaller : caller.index < count)
    (hframe : frame.index < count) {p : Parameter Node} {bound other : Bound}
    (hdefault : ∀ node, p.default = some node → node.Discreet)
    (hbound : ∀ node ∈ bound.nodes, node.Discreet)
    (hsame : bound.rescope (·.blur mark) = other.rescope (·.blur mark)) :
    Tracks mark spare count
      (fun slot twin => slot.1.rescope (·.blur mark) = twin.1.rescope (·.blur mark) ∧
        slot.2 = twin.2)
      (parameterSlot ev caller frame p bound)
      (parameterSlot ev (caller.displace mark) (frame.displace mark) p other) := by
  cases bound with
  | missing =>
      cases other with
      | missing =>
          have hvalue : Tracks mark spare count (Value.Near mark) (defaultValue ev frame p)
              (defaultValue ev (frame.displace mark) p) := by
            unfold defaultValue
            split
            · exact h.node hframe (hdefault _ ‹_›) rfl
            · exact .pure rfl
          exact hvalue.bind fun v w hvalues => .pure ⟨congrArg Slot.ready hvalues, rfl⟩
      | _ => cases hsame
  | single node =>
      cases other with
      | single other =>
          have hnode := hbound node (by simp [Bound.nodes])
          have hnodes := Bound.single.inj hsame
          refine Tracks.ite ?_ ?_
          · exact (addThunk_tracks hcaller hnode hnodes).bind fun id place hid =>
              .pure ⟨by rw [hid], rfl⟩
          · exact (h.node hcaller hnode hnodes).bind fun v w hvalues =>
              .pure ⟨congrArg Slot.ready hvalues, rfl⟩
      | _ => cases hsame
  | rest nodes =>
      cases other with
      | rest others =>
          have hnodes := Bound.rest.inj hsame
          have hsupplied : nodes.isEmpty = others.isEmpty := by
            simpa using congrArg List.isEmpty hnodes
          refine (values_tracks h hcaller hbound hnodes).bind fun vs ws hitems => .pure ⟨?_, ?_⟩
          · simpa [Slot.rescope] using hitems
          · rw [hsupplied]
      | _ => cases hsame

theorem fillSlots_tracks {caller frame : FrameId} (hcaller : caller.index < count)
    (hframe : frame.index < count) (index : Nat) {ps : List (Parameter Node)}
    {bounds others : List Bound} (hps : ∀ p ∈ ps, ∀ node, p.default = some node → node.Discreet)
    (hbounds : ∀ bound ∈ bounds, ∀ node ∈ bound.nodes, node.Discreet)
    (hsame : bounds.map (·.rescope (·.blur mark)) = others.map (·.rescope (·.blur mark))) :
    Tracks mark spare count (fun _ _ => True) (fillSlots ev caller frame index ps bounds)
      (fillSlots ev (caller.displace mark) (frame.displace mark) index ps others) := by
  replace hsame := forall₂_of_map_eq hsame
  induction hsame generalizing index ps with
  | nil => cases ps <;> exact .pure trivial
  | cons hfirst _ ih =>
      cases ps with
      | nil => exact .pure trivial
      | cons p ps =>
          obtain ⟨hp, hps⟩ := List.forall_mem_cons.mp hps
          obtain ⟨hbound, hbounds⟩ := List.forall_mem_cons.mp hbounds
          unfold fillSlots
          refine (parameterSlot_tracks h hcaller hframe hp hbound hfirst).bind ?_
          rintro ⟨slot, supplied⟩ ⟨slot', supplied'⟩ ⟨hslots, hsupplied⟩
          obtain rfl : supplied = supplied' := hsupplied
          refine Tracks.bind (modify_tracks fun world twin hshifted => ⟨?_, ?_⟩)
            fun _ _ _ => ih (index + 1) hps hbounds
          · exact hshifted.grounded.modifyFrame frame fun _ => rfl
          · exact hshifted.displaced.modifyFrame frame fun _ _ hframes =>
              hframes.fillSlot index supplied hslots

theorem callFrame_bind_tracks {R : α → β → Prop} {caller defining : FrameId}
    (hcaller : caller.index < count) (hdefining : defining.index < count)
    {arguments other : BoundArguments} (harguments : arguments.All Node.Discreet)
    (hsame : arguments.rescope (·.blur mark) = other.rescope (·.blur mark))
    {next : FrameId → Eval α} {next' : FrameId → Eval β}
    (hnext : ∀ frame more, count ≤ more → frame.index < more →
      Tracks mark spare more R (next frame) (next' (frame.displace mark))) :
    Tracks mark spare count R (callFrame ev caller defining arguments >>= next)
      (callFrame ev (caller.displace mark) (defining.displace mark) other >>= next') := by
  obtain ⟨hdefaults, hbounds⟩ := harguments
  obtain ⟨spec, bounds⟩ := arguments
  obtain ⟨spec', others⟩ := other
  obtain ⟨rfl, hothers⟩ := (BoundArguments.mk.injEq ..).mp hsame
  have hps : ∀ p ∈ spec.parameters, ∀ node, p.default = some node → node.Discreet :=
    fun p hp node hnode => hdefaults node (List.mem_filterMap.mpr ⟨p, hp, hnode⟩)
  simp only [callFrame, bind_assoc, pure_bind]
  refine addCallFrame_bind_tracks hdefining spec fun frame more hle hframe => ?_
  have hknown : caller.index < more := Nat.lt_of_lt_of_le hcaller hle
  exact (fillSlots_tracks h hknown hframe 0 hps hbounds hothers).bind fun _ _ _ =>
    hnext frame more hle hframe

theorem runHost_tracks {scope : FrameId} (hscope : scope.index < count) {parameters : List Node}
    (hparameters : ∀ node ∈ parameters, node.Discreet) {action other : HostAction}
    (hsame : action.Alike (·.blur mark) other) :
    Tracks mark spare count (Value.Near mark) (runHost ev scope parameters action)
      (runHost ev (scope.displace mark) parameters other) := by
  induction hsame with
  | yield values => exact .pure values
  | fail failures => exact .throw (congrArg Signal.failed failures)
  | leave values => exact .throw (congrArg Signal.returned values)
  | @call callee vs ws next other arguments further ih =>
      exact (h.call callee arguments).bind fun v w hvalues => ih v w hvalues
  | @evaluate index next other further ih =>
      unfold runHost
      cases hnode : parameters[index]? with
      | none => exact .fail _
      | some node =>
          exact (h.node hscope (hparameters node (List.mem_of_getElem? hnode)) rfl).bind ih

theorem runNative_tracks {caller : FrameId} (hcaller : caller.index < count) {code : NativeCode}
    (hcode : code.Discreet) {vs ws : List Value} (hvalues : AllNear mark vs ws) :
    Tracks mark spare count (Value.Near mark) (runNative ev caller code vs)
      (runNative ev (caller.displace mark) code ws) := by
  cases code with
  | primitive primitive =>
      refine Tracks.ofExcept ?_
      rw [← primitive.run_rescope, ← primitive.run_rescope]
      exact congrArg primitive.run hvalues
  | host run =>
      intro world twin hshifted
      have hsame := hcode _ world.trace twin.trace vs ws hshifted.displaced.trace.symm hvalues
      exact runHost_tracks h hcaller (by simp) hsame world twin hshifted

theorem invoke_tracks {caller : FrameId} (hcaller : caller.index < count) {callable : Callable}
    (hcallable : callable.Discreet)
    (hscope : ∀ closure, callable = .closure closure → closure.scope.index < count)
    {arguments other : BoundArguments} (harguments : arguments.All Node.Discreet)
    (hsame : arguments.rescope (·.blur mark) = other.rescope (·.blur mark)) :
    Tracks mark spare count (Value.Near mark) (invoke ev caller callable arguments)
      (invoke ev (caller.displace mark) (callable.displace mark) other) := by
  cases callable with
  | closure closure =>
      refine callFrame_bind_tracks h hcaller (hscope closure rfl) harguments hsame ?_
      intro frame more hle hframe
      have hbody : ∀ node ∈ closure.parts.body, node.Discreet :=
        fun node hnode => hcallable.nodes node (List.mem_append_right _ hnode)
      exact (body_tracks h hframe rfl hbody).catchReturn
  | native native =>
      have hbounds := congrArg BoundArguments.bound hsame
      refine (argumentValues_tracks h hcaller harguments.2 hbounds).bind fun vs ws hvalues => ?_
      exact runNative_tracks h hcaller (hcallable.native native rfl) hvalues

theorem callFunction_tracks (ref : FunctionRef) {vs ws : List Value}
    (hvalues : AllNear mark vs ws) :
    Tracks mark spare count (Value.Near mark) (callFunction ev ref vs)
      (callFunction ev ref ws) := by
  refine callableOf_bind_tracks ref fun callable more hle hmark hbound hcallable hscope => ?_
  have hroot : World.root.index < more := Nat.lt_of_lt_of_le hmark hbound
  have hstays : World.root.displace mark = World.root := FrameId.displace_of_lt hmark
  have hspec : ∀ node ∈ LambdaParts.defaults callable.spec, node.Discreet :=
    fun node hnode => hcallable.nodes node (callable.defaults_subset hnode)
  have hnodes : ∀ node ∈ vs.map (Node.ofValue · none), node.Discreet := by
    intro node hnode
    obtain ⟨v, -, rfl⟩ := List.mem_map.mp hnode
    exact .ofValue trivial none
  have halike : (vs.map (Node.ofValue · none)).map (·.rescope (·.blur mark)) =
      (ws.map (Node.ofValue · none)).map (·.rescope (·.blur mark)) := by
    simpa [Node.rescope_ofValue, Function.comp_def] using
      congrArg (List.map (Node.ofValue · none)) hvalues
  have hbinds : (bindArguments callable.spec (vs.map (Node.ofValue · none))).map
        (·.rescope (·.blur mark)) =
      (bindArguments callable.spec (ws.map (Node.ofValue · none))).map
        (·.rescope (·.blur mark)) := by
    rw [← bindArguments_rescope, ← bindArguments_rescope, halike]
  have hplainly := bindArguments_plainly callable.spec _ hspec hnodes
  simp only [Callable.spec_displace]
  generalize bindArguments callable.spec (vs.map (Node.ofValue · none)) = bound,
    bindArguments callable.spec (ws.map (Node.ofValue · none)) = other at hbinds hplainly
  cases bound with
  | error cause =>
      cases other with
      | error cause' =>
          obtain rfl := Except.error.inj hbinds
          exact .fail cause
      | ok other => cases hbinds
  | ok bound =>
      cases other with
      | error cause => cases hbinds
      | ok other =>
          have hinvoke := invoke_tracks h hroot hcallable hscope hplainly (Except.ok.inj hbinds)
          rw [hstays] at hinvoke
          exact hinvoke

theorem callSite_tracks {scope : FrameId} (hscope : scope.index < count) (site : Nat)
    {arguments : List Node} (harguments : ∀ node ∈ arguments, node.Discreet) (ref : FunctionRef) :
    Tracks mark spare count (Value.Near mark) (callSite ev scope site arguments ref)
      (callSite ev (scope.displace mark) site arguments ref) := by
  refine callableOf_bind_tracks ref fun callable more hle _ _ hcallable hbuilt => ?_
  have hspec : ∀ node ∈ LambdaParts.defaults callable.spec, node.Discreet :=
    fun node hnode => hcallable.nodes node (callable.defaults_subset hnode)
  simp only [Callable.spec_displace]
  refine (bindSite_tracks site ref hspec harguments).bind fun bound other hcommon => ?_
  obtain ⟨rfl, hbound⟩ := hcommon
  exact invoke_tracks h (Nat.lt_of_lt_of_le hscope hle) hcallable hbuilt hbound rfl

/-! ## Code -/

omit h in
theorem truthy_tracks {R : α → β → Prop} {v w : Value} (hvalues : v.Near mark w) {a b : Eval α}
    {c d : Eval β} (hthen : Tracks mark spare count R a c) (helse : Tracks mark spare count R b d) :
    Tracks mark spare count R (if v.isTruthy then a else b) (if w.isTruthy then c else d) := by
  have htruthy : v.isTruthy = w.isTruthy := by
    simpa using congrArg Value.isTruthy hvalues
  rw [htruthy]
  exact hthen.ite helse

theorem cond_tracks {scope : FrameId} (hscope : scope.index < count)
    {clauses : List (Node × List Node)}
    (hclauses : ∀ clause ∈ clauses, ∀ node ∈ clause.1 :: clause.2, node.Discreet) :
    Tracks mark spare count (Value.Near mark) (cond ev scope clauses)
      (cond ev (scope.displace mark) clauses) := by
  induction clauses with
  | nil => exact .pure rfl
  | cons clause clauses ih =>
      obtain ⟨hclause, hrest⟩ := List.forall_mem_cons.mp hclauses
      obtain ⟨htest, hbody⟩ := List.forall_mem_cons.mp hclause
      refine (h.node hscope htest rfl).bind fun v w hvalues => ?_
      exact truthy_tracks hvalues ((Tracks.pure hvalues).ite (body_tracks h hscope rfl hbody))
        (ih hrest)

theorem allOf_tracks {scope : FrameId} (hscope : scope.index < count) {last last' : Value}
    (hlast : last.Near mark last') {nodes : List Node} (hnodes : ∀ node ∈ nodes, node.Discreet) :
    Tracks mark spare count (Value.Near mark) (allOf ev scope last nodes)
      (allOf ev (scope.displace mark) last' nodes) := by
  induction nodes generalizing last last' with
  | nil => exact .pure hlast
  | cons node nodes ih =>
      obtain ⟨hnode, hrest⟩ := List.forall_mem_cons.mp hnodes
      refine (h.node hscope hnode rfl).bind fun v w hvalues => ?_
      exact truthy_tracks hvalues (ih hvalues hrest) (.pure hvalues)

theorem anyOf_tracks {scope : FrameId} (hscope : scope.index < count) {nodes : List Node}
    (hnodes : ∀ node ∈ nodes, node.Discreet) :
    Tracks mark spare count (Value.Near mark) (anyOf ev scope nodes)
      (anyOf ev (scope.displace mark) nodes) := by
  induction nodes with
  | nil => exact .pure rfl
  | cons node nodes ih =>
      obtain ⟨hnode, hrest⟩ := List.forall_mem_cons.mp hnodes
      refine (h.node hscope hnode rfl).bind fun v w hvalues => ?_
      exact truthy_tracks hvalues (.pure hvalues) (ih hrest)

theorem whileLoop_tracks {scope : FrameId} (hscope : scope.index < count) {test : Node}
    {nodes : List Node} (fuel : Nat) {last last' : Value} (hlast : last.Near mark last')
    (htest : test.Discreet) (hnodes : ∀ node ∈ nodes, node.Discreet) :
    Tracks mark spare count (Value.Near mark) (whileLoop ev scope test nodes fuel last)
      (whileLoop ev (scope.displace mark) test nodes fuel last') := by
  induction fuel generalizing last last' with
  | zero => exact .throw rfl
  | succ fuel ih =>
      refine (h.node hscope htest rfl).bind fun v w hvalues => ?_
      refine truthy_tracks hvalues ?_ (.pure hlast)
      exact (body_tracks h hscope rfl hnodes).bind fun _ _ hnext => ih hnext

omit h in
theorem elements_tracks {v w : Value} (hvalues : v.Near mark w) :
    Tracks mark spare count (AllNear mark) (elements v) (elements w) := by
  cases hvalues.cases with
  | same v =>
      unfold elements
      split
      · exact .pure rfl
      · exact .pure rfl
      · exact .pure rfl
      · exact .pure rfl
      · exact .pure rfl
      · exact .fail _
  | list items => exact .pure items
  | map values => exact .pure values
  | error failures => exact .fail _
  | object elements => exact .pure elements

theorem eachElement_tracks {scope : FrameId} (hscope : scope.index < count) (name : String)
    {nodes : List Node} (hnodes : ∀ node ∈ nodes, node.Discreet) {items others : List Value}
    (hitems : AllNear mark items others) :
    Tracks mark spare count (fun _ _ => True) (eachElement ev scope name nodes items)
      (eachElement ev (scope.displace mark) name nodes others) := by
  replace hitems := forall₂_of_map_eq hitems
  induction hitems with
  | nil => exact .pure trivial
  | cons hfirst _ ih =>
      refine (setLocal_tracks scope name hfirst).bind fun _ _ _ => ?_
      exact (body_tracks h hscope rfl hnodes).bind fun _ _ _ => ih

theorem foreach_tracks {scope : FrameId} (hscope : scope.index < count) (name : String)
    {source : Node} {result : Option Node} {nodes : List Node} (hsource : source.Discreet)
    (hresult : ∀ node, result = some node → node.Discreet)
    (hnodes : ∀ node ∈ nodes, node.Discreet) :
    Tracks mark spare count (Value.Near mark) (foreach ev scope name source result nodes)
      (foreach ev (scope.displace mark) name source result nodes) := by
  refine (h.node hscope hsource rfl).bind fun v w hvalues => ?_
  refine addChild_bind_tracks hscope fun inner more _ hinner => ?_
  refine (setLocal_tracks inner name rfl).bind fun _ _ _ => ?_
  refine (elements_tracks hvalues).bind fun items others hitems => ?_
  refine (eachElement_tracks h hinner name hnodes hitems).bind fun _ _ _ => ?_
  refine (setLocal_tracks inner name rfl).bind fun _ _ _ => ?_
  cases result with
  | none => exact .pure rfl
  | some node => exact h.node hinner (hresult node rfl) rfl

omit h in
theorem throwValue_near (kind : ErrorKind) {v w : Value} (hvalues : v.Near mark w) :
    (throwValue kind v).Near mark (throwValue kind w) := by
  have hdisplay : v.display = w.display := by
    simpa using congrArg Value.display hvalues
  have hthrown : (Signal.failed (.of (.thrown kind v.display (some v)))).Near mark
      (.failed (.of (.thrown kind w.display (some w)))) := by
    refine congrArg Signal.failed ?_
    simp only [FailureOf.of, FailureOf.rescope, CauseOf.rescope, hdisplay]
    rw [hvalues]
  cases hvalues.cases with
  | same v => rfl
  | error failures => exact congrArg Signal.failed failures
  | list items => exact hthrown
  | map values => exact hthrown
  | object elements => exact hthrown

theorem pipeline_tracks {scope : FrameId} (hscope : scope.index < count) (name : String)
    {v w : Value} (hvalues : v.Near mark w) {steps : List Node}
    (hsteps : ∀ node ∈ steps, node.Discreet) :
    Tracks mark spare count (Value.Near mark) (pipeline ev scope name v steps)
      (pipeline ev (scope.displace mark) name w steps) := by
  induction steps generalizing v w count with
  | nil => exact .pure hvalues
  | cons step steps ih =>
      obtain ⟨hstep, hrest⟩ := List.forall_mem_cons.mp hsteps
      refine addChild_bind_tracks hscope fun inner more hle hinner => ?_
      refine (setLocal_tracks inner name hvalues).bind fun _ _ _ => ?_
      refine (h.node hinner hstep rfl).bind fun _ _ hnext => ?_
      exact ih (Nat.lt_of_lt_of_le hscope hle) hnext hrest

theorem defineAll_tracks {scope : FrameId} (hscope : scope.index < count)
    {bindings : List (String × Option Node)}
    (hbindings : ∀ binding ∈ bindings, ∀ node, binding.2 = some node → node.Discreet) :
    Tracks mark spare count (fun _ _ => True) (defineAll ev scope bindings)
      (defineAll ev (scope.displace mark) bindings) := by
  induction bindings with
  | nil => exact .pure trivial
  | cons binding bindings ih =>
      obtain ⟨hbinding, hrest⟩ := List.forall_mem_cons.mp hbindings
      obtain ⟨name, node⟩ := binding
      cases node with
      | none =>
          exact (define_tracks scope name (v := .nil) (w := .nil) rfl).bind fun _ _ _ => ih hrest
      | some node =>
          refine (h.node hscope (hbinding node rfl) rfl).bind fun v w hvalues => ?_
          exact (define_tracks scope name hvalues).bind fun _ _ _ => ih hrest

omit h in
theorem listItems_tracks {v w : Value} (hvalues : v.Near mark w) :
    Tracks mark spare count (AllNear mark) (listItems v) (listItems w) := by
  cases hvalues.cases with
  | same v =>
      unfold listItems
      split
      · exact .pure rfl
      · exact .pure rfl
      · exact .fail _
  | list items => exact .pure items
  | map values => exact .fail _
  | error failures => exact .fail _
  | object elements => exact .fail _

omit h in
theorem defineItems_tracks (scope : FrameId) (names : List String) {items others : List Value}
    (hitems : AllNear mark items others) :
    Tracks mark spare count (AllNear mark) (defineItems scope names items)
      (defineItems (scope.displace mark) names others) := by
  induction names generalizing items others with
  | nil => exact .pure hitems
  | cons name names ih =>
      have hfirst : (items.headD .nil).Near mark (others.headD .nil) := by
        cases forall₂_of_map_eq hitems with
        | nil => rfl
        | cons hfirst _ => exact hfirst
      have hrest : AllNear mark (items.drop 1) (others.drop 1) := by
        simpa [AllNear, AllAlike, List.map_drop] using congrArg (List.drop 1) hitems
      exact (define_tracks scope name hfirst).bind fun _ _ _ => ih hrest

theorem destructure_tracks {scope : FrameId} (hscope : scope.index < count) (names : List String)
    (restName : Option String) {source : Node} {nodes : List Node} (hsource : source.Discreet)
    (hnodes : ∀ node ∈ nodes, node.Discreet) :
    Tracks mark spare count (Value.Near mark) (destructure ev scope names restName source nodes)
      (destructure ev (scope.displace mark) names restName source nodes) := by
  refine (h.node hscope hsource rfl).bind fun v w hvalues => ?_
  refine (listItems_tracks hvalues).bind fun items others hitems => ?_
  refine addChild_bind_tracks hscope fun inner more _ hinner => ?_
  refine (defineItems_tracks inner names hitems).bind fun left right hleft => ?_
  cases restName with
  | none => exact body_tracks h hinner rfl hnodes
  | some name =>
      have hlists : (Value.list left).Near mark (.list right) := by
        simpa [Value.Near, Value.Alike] using hleft
      exact (define_tracks inner name hlists).bind fun _ _ _ => body_tracks h hinner rfl hnodes

theorem assign_tracks {scope : FrameId} (hscope : scope.index < count) (discipline : Discipline)
    {last last' : Value} (hlast : last.Near mark last') {pairs : List (String × Node)}
    (hpairs : ∀ pair ∈ pairs, pair.2.Discreet) :
    Tracks mark spare count (Value.Near mark) (assign ev scope discipline last pairs)
      (assign ev (scope.displace mark) discipline last' pairs) := by
  induction pairs generalizing last last' with
  | nil => exact .pure hlast
  | cons pair pairs ih =>
      obtain ⟨hpair, hrest⟩ := List.forall_mem_cons.mp hpairs
      refine (h.node hscope hpair rfl).bind fun v w hvalues => ?_
      exact (update_tracks discipline scope pair.1 hvalues).bind fun _ _ _ => ih hvalues hrest

theorem handle_tracks {scope : FrameId} (hscope : scope.index < count)
    {catches : List (CatchClause Node)}
    (hcatches : ∀ clause ∈ catches, ∀ node ∈ clause.body, node.Discreet) {failure other : Failure}
    (hfailures : failure.Alike (·.blur mark) other) :
    Tracks mark spare count (Value.Near mark) (handle ev scope catches failure)
      (handle ev (scope.displace mark) catches other) := by
  have hkind : failure.kind = other.kind := by
    simpa [FailureOf.kind] using congrArg FailureOf.kind hfailures
  unfold handle
  rw [hkind]
  cases hclause : catches.find? fun clause => other.kind.isA clause.kind with
  | none => exact .throw (congrArg Signal.failed hfailures)
  | some clause =>
      refine addChild_bind_tracks hscope fun inner more _ hinner => ?_
      refine (addError_tracks hfailures).bind fun v w hvalues => ?_
      refine (define_tracks inner _ hvalues).bind fun _ _ _ => ?_
      exact body_tracks h hinner rfl (hcatches clause (List.mem_of_find?_eq_some hclause))

theorem recover_tracks {scope : FrameId} (hscope : scope.index < count)
    {catches : List (CatchClause Node)}
    (hcatches : ∀ clause ∈ catches, ∀ node ∈ clause.body, node.Discreet)
    {outcome other : Except Signal Value}
    (hsame : SameOutcome mark (Value.Near mark) outcome other) :
    Tracks mark spare count (Value.Near mark) (recover ev scope catches outcome)
      (recover ev (scope.displace mark) catches other) := by
  cases hsame with
  | ok values => exact .pure values
  | error signals =>
      cases signals.cases with
      | failed failures => exact handle_tracks h hscope hcatches failures
      | returned values => exact .throw signals
      | exhausted => exact .throw signals

theorem tryCatch_tracks {scope : FrameId} (hscope : scope.index < count) {nodes : List Node}
    {catches : List (CatchClause Node)} {finalizer : Option (List Node)}
    (hnodes : ∀ node ∈ nodes, node.Discreet)
    (hcatches : ∀ clause ∈ catches, ∀ node ∈ clause.body, node.Discreet)
    (hfinalizer : ∀ node ∈ finalizer.getD [], node.Discreet) :
    Tracks mark spare count (Value.Near mark) (tryCatch ev scope nodes catches finalizer)
      (tryCatch ev (scope.displace mark) nodes catches finalizer) := by
  have hbody : Tracks mark spare count (Value.Near mark) (body ev scope .nil nodes)
      (body ev (scope.displace mark) .nil nodes) := body_tracks h hscope rfl hnodes
  rw [tryCatch_eq, tryCatch_eq]
  refine (hbody.observe.bind fun _ _ hsame =>
    recover_tracks h hscope hcatches hsame).observe.bind ?_
  intro outcome other hsame
  cases finalizer with
  | none => exact .resume hsame
  | some cleanup =>
      exact (body_tracks h hscope rfl hfinalizer).bind fun _ _ _ => .resume hsame

omit h in
theorem spreadArguments_tracks {vs ws : List Value} (hvalues : AllNear mark vs ws) :
    Tracks mark spare count (AllNear mark) (spreadArguments vs) (spreadArguments ws) := by
  have hlast (v : Value) : spreadArguments [v] = listItems v := by
    cases v <;> rfl
  have hmore (v : Value) (w : Value) (vs : List Value) : spreadArguments (v :: w :: vs) =
      (do return v :: (← spreadArguments (w :: vs))) := by
    cases v <;> rfl
  replace hvalues := forall₂_of_map_eq hvalues
  induction hvalues with
  | nil => exact .fail _
  | cons hfirst hrest ih =>
      cases hrest with
      | nil =>
          rw [hlast, hlast]
          exact listItems_tracks hfirst
      | cons _ _ =>
          rw [hmore, hmore]
          refine ih.bind fun items others hitems => .pure ?_
          simp [AllNear, AllAlike, hfirst, hitems]

theorem callee_tracks {scope : FrameId} (hscope : scope.index < count) {callee : Node}
    (hdiscreet : callee.Discreet) {next next' : FunctionRef → Eval Value}
    (hnext : ∀ ref, Tracks mark spare count (Value.Near mark) (next ref) (next' ref)) :
    Tracks mark spare count (Value.Near mark)
      (do let ref ← functionOf (← ev.node scope callee); next ref)
      (do let ref ← functionOf (← ev.node (scope.displace mark) callee); next' ref) := by
  refine (h.node hscope hdiscreet rfl).bind fun v w hnear => (functionOf_tracks hnear).bind ?_
  rintro ref _ rfl
  exact hnext ref

theorem form_tracks (fuel : Nat) {scope : FrameId} (hscope : scope.index < count)
    {parameters : BuiltIn} (hchild : ∀ child ∈ parameters.children, child.Discreet) :
    Tracks mark spare count (Value.Near mark) (form ev fuel scope parameters)
      (form ev fuel (scope.displace mark) parameters) := by
  have hvisit {child : Node} (hdiscreet : child.Discreet) :
      Tracks mark spare count (Value.Near mark) (ev.node scope child)
        (ev.node (scope.displace mark) child) := h.node hscope hdiscreet rfl
  have hvalues {nodes : List Node} (hnodes : ∀ child ∈ nodes, child.Discreet) :
      Tracks mark spare count (AllNear mark) (values ev scope nodes)
        (values ev (scope.displace mark) nodes) := values_tracks h hscope hnodes rfl
  cases parameters with
  | quote v => exact .pure rfl
  | sequence nodes => exact body_tracks h hscope rfl hchild
  | ifElse test onTrue onFalse =>
      simp only [FormOf.children, List.forall_mem_cons] at hchild
      obtain ⟨htest, honTrue, honFalse⟩ := hchild
      exact (hvisit htest).bind fun v w hnear =>
        truthy_tracks hnear (hvisit honTrue) (body_tracks h hscope rfl honFalse)
  | cond clauses =>
      refine cond_tracks h hscope ?_
      intro clause hclause node hnode
      exact hchild node (List.mem_flatMap.mpr ⟨clause, hclause, hnode⟩)
  | whenTrue test nodes =>
      obtain ⟨htest, hnodes⟩ := List.forall_mem_cons.mp hchild
      exact (hvisit htest).bind fun v w hnear =>
        truthy_tracks hnear (body_tracks h hscope rfl hnodes) (.pure rfl)
  | whenFalse test nodes =>
      obtain ⟨htest, hnodes⟩ := List.forall_mem_cons.mp hchild
      exact (hvisit htest).bind fun v w hnear =>
        truthy_tracks hnear (.pure rfl) (body_tracks h hscope rfl hnodes)
  | allOf items => exact allOf_tracks h hscope rfl hchild
  | anyOf items => exact anyOf_tracks h hscope hchild
  | whileLoop test nodes =>
      obtain ⟨htest, hnodes⟩ := List.forall_mem_cons.mp hchild
      exact whileLoop_tracks h hscope fuel rfl htest hnodes
  | foreach name source result nodes =>
      simp only [FormOf.children, List.cons_append, List.forall_mem_cons, List.forall_mem_append,
        Option.mem_toList] at hchild
      obtain ⟨hsource, hresult, hnodes⟩ := hchild
      exact foreach_tracks h hscope name hsource hresult hnodes
  | returnWith value =>
      cases value with
      | none => exact .throw rfl
      | some node =>
          exact (hvisit (hchild node (by simp [FormOf.children]))).bind fun v w hnear =>
            .throw (congrArg Signal.returned hnear)
  | throwWith kind message =>
      exact (hvisit (hchild message (by simp [FormOf.children]))).bind fun v w hnear =>
        .throw (throwValue_near kind hnear)
  | pipeline first steps =>
      obtain ⟨hfirst, hsteps⟩ := List.forall_mem_cons.mp hchild
      exact (hvisit hfirst).bind fun v w hnear => pipeline_tracks h hscope _ hnear hsteps
  | letIn bindings nodes =>
      obtain ⟨hbindings, hnodes⟩ := List.forall_mem_append.mp hchild
      refine addChild_bind_tracks hscope fun inner more _ hinner => ?_
      refine (defineAll_tracks h hinner ?_).bind fun _ _ _ => body_tracks h hinner rfl hnodes
      intro binding hbinding node hnode
      exact hbindings node (List.mem_filterMap.mpr ⟨binding, hbinding, hnode⟩)
  | destructure names restName source nodes =>
      obtain ⟨hsource, hnodes⟩ := List.forall_mem_cons.mp hchild
      exact destructure_tracks h hscope names restName hsource hnodes
  | assign discipline pairs =>
      exact assign_tracks h hscope discipline rfl (List.forall_mem_map.mp hchild)
  | lambda parts =>
      refine (close_tracks hscope none hchild).bind ?_
      rintro ref _ rfl
      exact .pure rfl
  | defun name parts =>
      refine (close_tracks hscope (some name) hchild).bind ?_
      rintro ref _ rfl
      exact (defineFunction_tracks name ref).bind fun _ _ _ => .pure rfl
  | functionNamed name =>
      refine (resolveFunction_tracks h scope name).bind ?_
      rintro ref _ rfl
      exact .pure rfl
  | functionOf callee =>
      exact callee_tracks h hscope (hchild callee (by simp [FormOf.children])) fun _ => .pure rfl
  | tryCatch nodes catches finalizer =>
      simp only [FormOf.children, List.forall_mem_append] at hchild
      obtain ⟨⟨hnodes, hcatches⟩, hfinalizer⟩ := hchild
      refine tryCatch_tracks h hscope hnodes ?_ hfinalizer
      intro clause hclause node hnode
      exact hcatches node (List.mem_flatMap.mpr ⟨clause, hclause, hnode⟩)
  | funcall callee arguments =>
      obtain ⟨hdiscreet, harguments⟩ := List.forall_mem_cons.mp hchild
      exact callee_tracks h hscope hdiscreet fun ref => (hvalues harguments).bind fun vs ws hnear =>
        callFunction_tracks h ref hnear
  | applyList callee arguments =>
      obtain ⟨hdiscreet, harguments⟩ := List.forall_mem_cons.mp hchild
      exact callee_tracks h hscope hdiscreet fun ref => (hvalues harguments).bind fun vs ws hnear =>
        (spreadArguments_tracks hnear).bind fun items others hitems =>
          callFunction_tracks h ref hitems

theorem code_tracks (fuel : Nat) {scope : FrameId} (hscope : scope.index < count) {node : Node}
    (hnode : node.Discreet) :
    Tracks mark spare count (Value.Near mark) (code ev fuel scope node.code)
      (code ev fuel (scope.displace mark) node.code) := by
  have hchild : ∀ child ∈ node.code.children, child.Discreet := hnode.inner
  have hown := hnode.own
  generalize node.code = code at hchild hown
  cases code with
  | literal v => exact .pure rfl
  | readVariable name => exact readVariable_tracks h scope name
  | form slot =>
      obtain ⟨content⟩ := slot
      obtain ⟨parameters, rfl, -⟩ := hown
      exact form_tracks h fuel hscope hchild
  | callNamed site name arguments =>
      refine (resolveFunction_tracks h scope name).bind ?_
      rintro ref _ rfl
      exact callSite_tracks h hscope site hchild ref
  | callComputed site callee arguments =>
      obtain ⟨hdiscreet, harguments⟩ := List.forall_mem_cons.mp hchild
      exact callee_tracks h hscope hdiscreet fun ref => callSite_tracks h hscope site harguments ref
  | host parameters action => exact runHost_tracks h hscope hchild (hown _)

/-! ## Nodes -/

omit h in
theorem enter_tracks (limit : Nat) (name : String) (position : Option Position) (scope : FrameId) :
    Tracks mark spare count (fun _ _ => True) (enter limit ⟨name, position, scope⟩)
      (enter limit ⟨name, position, scope.displace mark⟩) := by
  intro world twin hshifted
  have htrace := hshifted.displaced.trace
  have hfull : twin.trace.isFull limit = world.trace.isFull limit := by
    have hsize := congrArg Backtrace.size htrace
    simp only [Backtrace.size_rescope] at hsize
    simp [Backtrace.isFull, hsize]
  unfold enter
  rw [hfull]
  cases world.trace.isFull limit with
  | true =>
      refine .error ?_ hshifted
      refine congrArg Signal.failed ?_
      simp [depthFailure, FailureOf.rescope_withTrace, htrace]
  | false =>
      refine .ok ⟨trivial, { hshifted.grounded with }, hshifted.displaced.withTrace ?_⟩
      simp [htrace, Call.rescope, FrameId.blur_displace]

omit h in
theorem leave_tracks (position : Option Position) {outcome other : Except Signal Value}
    (hsame : SameOutcome mark (Value.Near mark) outcome other) :
    Tracks mark spare count (Value.Near mark) (leave position outcome) (leave position other) := by
  intro world twin hshifted
  have htrace := hshifted.displaced.trace
  have hpop : twin.trace.pop.rescope (·.blur mark) = world.trace.pop.rescope (·.blur mark) := by
    simp [htrace]
  unfold leave
  cases hsame with
  | ok values => exact .ok ⟨values, { hshifted.grounded with }, hshifted.displaced.withTrace hpop⟩
  | error signals =>
      refine .error ?_ ⟨{ hshifted.grounded with }, hshifted.displaced.withTrace hpop⟩
      simp only [Signal.Near, Signal.Alike, Signal.rescope_annotate, htrace] at signals ⊢
      rw [signals]

theorem step_tracks (limit fuel : Nat) {scope : FrameId} (hscope : scope.index < count)
    {node other : Node} (hnode : node.Discreet) (hnodes : node.Alike (·.blur mark) other) :
    Tracks mark spare count (Value.Near mark) (step ev limit fuel scope node)
      (step ev limit fuel (scope.displace mark) other) := by
  have hcode : Tracks mark spare count (Value.Near mark) (code ev fuel scope node.code)
      (code ev fuel (scope.displace mark) other.code) := by
    rcases hnodes.cases with rfl | ⟨v, w, hnear, hv, hw⟩
    · exact code_tracks h fuel hscope hnode
    · rw [hv, hw]
      exact .pure hnear
  have hname : other.name = node.name := (congrArg Node.name hnodes).symm
  have hposition : other.position = node.position := (congrArg Node.position hnodes).symm
  unfold step
  rw [hname, hposition]
  refine (enter_tracks limit node.name node.position scope).bind fun _ _ _ => ?_
  exact hcode.observe.bind fun _ _ hsame => leave_tracks node.position hsame

omit h in
theorem evaluator_tracks (mark : Nat) (spare : Frame) (limit fuel : Nat) :
    (evaluator limit fuel).Tracks mark spare := by
  induction fuel with
  | zero => exact ⟨fun _ _ _ => .throw rfl, fun _ _ _ _ => .throw rfl⟩
  | succ fuel ih =>
      exact ⟨fun hscope hnode hnodes => step_tracks ih limit fuel hscope hnode hnodes,
        fun ref _ _ hvalues => (callFunction_tracks ih ref hvalues).catchReturn⟩

end Eval

end LispEngine
