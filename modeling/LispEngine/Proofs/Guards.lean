import LispEngine.Proofs.Parallel
import LispEngine.Proofs.WellFormed

/-!
# Guarded evaluations

An evaluator that looks before it leaps: before it fills a slot of a call frame it makes sure that
the frame has that slot, it goes through the parameters of a native function for one value each,
that of a rest parameter being a list, and before it runs a primitive function it makes sure that no
value is missing. Where this is not so it does something else. It turns out to be the evaluator
itself, so nothing else is ever done.
-/

namespace LispEngine

def Value.isList : Value → Bool
  | list _ => true
  | _ => false

def Primitive.finds (p : Primitive) (vs : List Value) : Bool :=
  match p.run vs with
  | .ok _ => true
  | .error cause => !cause.isArgumentMissing

def NativeCode.finds : NativeCode → List Value → Bool
  | .primitive p, vs => p.finds vs
  | .host _, _ => true

def World.hasSlot (world : World) (frame : FrameId) (index : Nat) : Bool :=
  ((world.frame? frame).bind Frame.call).any fun call =>
    decide (index < call.slots.length) && decide (index < call.supplied.length)

namespace Eval.Guarded

def require (fault : Eval Unit) (condition : Bool) : Eval Unit :=
  if condition then pure () else fault

section

variable (fault : Eval Unit) (ev : Evaluator)

def fillSlots (caller frame : FrameId) : Nat → List (Parameter Node) → List Bound → Eval Unit
  | index, p :: ps, bound :: rest => do
      let (slot, supplied) ← parameterSlot ev caller frame p bound
      require fault ((← get).hasSlot frame index)
      modify fun world => world.modifyFrame frame (·.fillSlot index slot supplied)
      fillSlots caller frame (index + 1) ps rest
  | _, _, _ => pure ()

def callFrame (caller defining : FrameId) (arguments : BoundArguments) : Eval FrameId := do
  let frame ← modifyGet fun world => world.addCallFrame defining arguments.spec
  fillSlots fault ev caller frame 0 arguments.spec.parameters arguments.bound
  return frame

/-- One value for each parameter, in the order of the parameters. -/
def argumentValues (caller : FrameId) : List (Parameter Node) → List Bound → Eval (List Value)
  | [], [] => pure []
  | p :: ps, bound :: rest => do
      let v ← argumentValue ev caller bound
      require fault (p.role != .rest || v.isList)
      let vs ← argumentValues caller ps rest
      return v :: vs
  | _, _ => do
      fault
      return []

def invoke (caller : FrameId) (callable : Callable) (arguments : BoundArguments) : Eval Value :=
  match callable with
  | .closure closure => do
      let frame ← callFrame fault ev caller closure.scope arguments
      catchReturn (body ev frame .nil closure.parts.body)
  | .native native => do
      let vs ← argumentValues fault ev caller native.spec.parameters arguments.bound
      require fault (native.code.finds vs)
      runNative ev caller native.code vs

def callFunction (ref : FunctionRef) (arguments : List Value) : Eval Value := do
  let callable ← callableOf ref
  let bound ← ofExcept (bindArguments callable.spec (arguments.map (Node.ofValue · none)))
  invoke fault ev World.root callable bound

def callSite (scope : FrameId) (site : Nat) (arguments : List Node) (ref : FunctionRef) :
    Eval Value := do
  let callable ← callableOf ref
  let bound ← bindSite site arguments ref callable.spec
  invoke fault ev scope callable bound

/-- Only forms that call functions themselves need guards of their own. -/
def form (fuel : Nat) (scope : FrameId) : BuiltIn → Eval Value
  | .funcall callee arguments => do
      let ref ← functionOf (← ev.node scope callee)
      let vs ← values ev scope arguments
      callFunction fault ev ref vs
  | .applyList callee arguments => do
      let ref ← functionOf (← ev.node scope callee)
      let vs ← spreadArguments (← values ev scope arguments)
      callFunction fault ev ref vs
  | other => Eval.form ev fuel scope other

def code (fuel : Nat) (scope : FrameId) : Code → Eval Value
  | .form slot => do
      let parameters ← ofFailure slot.get
      form fault ev fuel scope parameters
  | .callNamed site name arguments => do
      let ref ← resolveFunction ev scope name
      callSite fault ev scope site arguments ref
  | .callComputed site callee arguments => do
      let ref ← functionOf (← ev.node scope callee)
      callSite fault ev scope site arguments ref
  | other => Eval.code ev fuel scope other

def step (limit fuel : Nat) (scope : FrameId) (node : Node) : Eval Value := do
  enter limit ⟨node.name, node.position, scope⟩
  let outcome ← observe (code fault ev fuel scope node.code)
  leave node.position outcome

end

mutual

def nodeWithin (fault : Eval Unit) (limit : Nat) : Nat → FrameId → Node → Eval Value
  | 0, _, _ => throw .exhausted
  | fuel + 1, scope, node =>
      step fault ⟨nodeWithin fault limit fuel, callWithin fault limit fuel⟩ limit fuel scope node

def callWithin (fault : Eval Unit) (limit : Nat) : Nat → FunctionRef → List Value → Eval Value
  | 0, _, _ => throw .exhausted
  | fuel + 1, ref, arguments => catchReturn
      (callFunction fault ⟨nodeWithin fault limit fuel, callWithin fault limit fuel⟩ ref arguments)

end

/-- The evaluator that guards slots and native functions, and carries out `fault` where a guard does
not hold. -/
def evaluator (fault : Eval Unit) (limit fuel : Nat) : Evaluator :=
  ⟨nodeWithin fault limit fuel, callWithin fault limit fuel⟩

end Eval.Guarded

/-! ## Frames keep their shape -/

abbrev Contract.extending (limit : Nat) : Contract :=
  .ambient limit (fun _ => True) World.Extends

theorem extending_sound (limit : Nat) : (Contract.extending limit).Sound where
  refl := World.Extends.refl
  trans h h' := h.trans h'
  addChild _ _ := ⟨⟨trivial, rfl, World.extends_addFrame _ _⟩, trivial⟩
  addCallFrame _ _ _ _ := ⟨⟨trivial, rfl, World.extends_addFrame _ _⟩, trivial⟩
  addHandler _ _ _ _ _ := ⟨⟨trivial, rfl, World.extends_addFrame _ _⟩, trivial⟩
  setLocal name _ _ _ _ :=
    ⟨trivial, rfl, World.extends_modifyFrame _ _ fun frame => frame.sameShape_set name _⟩
  fillSlot index _ supplied _ _ _ := ⟨trivial, rfl,
    World.extends_modifyFrame _ _ fun frame => frame.sameShape_fillSlot index _ supplied⟩
  update := by
    intro world id node discipline pairs name v _ _ _ _ _
    have hset (id : FrameId) : world.Extends (world.setLocal id name v) :=
      world.extends_modifyFrame id fun frame => frame.sameShape_set name v
    cases discipline with
    | global => exact ⟨trivial, rfl, hset _⟩
    | nearest => exact ⟨trivial, rfl, hset _⟩
  addThunk _ _ _ := ⟨trivial, rfl, World.extends_of_frames rfl⟩
  pending _ _ := ⟨trivial, trivial, trivial⟩
  settle _ _ hnext _ _ := ⟨trivial, hnext.trace, hnext.change⟩
  restore _ _ hnext := ⟨trivial, hnext.trace, hnext.change⟩
  close _ _ _ _ _ _ := ⟨trivial, rfl, World.extends_of_frames rfl⟩
  defineFunction _ _ _ _ := ⟨trivial, rfl, World.extends_of_frames rfl⟩
  function _ _ := Ambient.function _ _
  cached _ _ := Ambient.bound _
  remember _ _ _ _ _ := ⟨trivial, rfl, World.extends_of_frames rfl⟩
  entered _ _ _ _ := ⟨trivial, trivial⟩
  left _ _ hnext := ⟨trivial, rfl, hnext.change⟩

/-! ## What guards rely on -/

/-- Call sites remember what was bound, and primitive functions have the lambda lists that they
declare. -/
structure World.Faithful (world : World) : Prop where
  remembers : world.Remembers
  declared : world.defs.Declared

theorem World.WellFormed.faithful {world : World} (h : world.WellFormed) : world.Faithful :=
  ⟨h.remembers, h.declared⟩

namespace World.Faithful

variable {world : World} (h : world.Faithful)

include h

theorem keepsStores {after : World} (hkept : world.KeepsStores after) : after.Faithful := by
  constructor
  · intro call hcall
    rw [hkept.sites] at hcall
    obtain ⟨owner, nodes, howner, hbound⟩ := h.remembers call hcall
    exact ⟨owner, nodes, by rw [hkept.functions]; exact howner, hbound⟩
  · intro callable hcallable
    rw [hkept.functions] at hcallable
    exact h.declared callable hcallable

theorem addFunction {callable : Callable} (hdeclared : callable.Declared) :
    World.Faithful { world with defs := (world.defs.addFunction callable).2 } :=
  ⟨h.remembers.addFunction callable, h.declared.addFunction hdeclared⟩

theorem remember (site : Nat) {call : CachedCall} (hcall : call.BoundIn world) :
    (world.remember site call).Faithful :=
  ⟨h.remembers.remember site hcall, h.declared⟩

theorem bindSite (site : Nat) (arguments : List Node) {ref : FunctionRef} {callable : Callable}
    (hfunction : world.defs.function? ref = some callable) :
    (∃ bound after nodes, Eval.bindSite site arguments ref callable.spec world = .ok bound after ∧
      after.Faithful ∧ bindArguments callable.spec nodes = .ok bound) ∨
    ∃ signal, Eval.bindSite site arguments ref callable.spec world = .error signal world := by
  have hnew {result : EStateM.Result Signal World BoundArguments}
      (hresult : (do
        let bound ← Eval.ofExcept (bindArguments callable.spec arguments)
        modify fun world => world.remember site ⟨ref.id, bound⟩
        return bound : Eval BoundArguments) world = result) :
      (∃ bound after nodes, result = .ok bound after ∧ after.Faithful ∧
        bindArguments callable.spec nodes = .ok bound) ∨
          ∃ signal, result = .error signal world := by
    subst hresult
    cases hbound : bindArguments callable.spec arguments with
    | ok bound =>
        exact .inl ⟨bound, _, arguments, rfl,
          h.remember site ⟨callable, arguments, hfunction, hbound⟩, hbound⟩
    | error cause => exact .inr ⟨_, rfl⟩
  unfold Eval.bindSite
  simp only [Eval.run_get_bind]
  cases hcached : world.cached? site with
  | none => exact hnew rfl
  | some call =>
      simp only
      split
      · rename_i hcallee
        obtain ⟨owner, nodes, howner, hbound⟩ := h.remembers call (World.mem_sites hcached)
        rw [hcallee] at howner
        obtain rfl := Option.some.inj (howner.symm.trans hfunction)
        exact .inl ⟨call.arguments, world, nodes, rfl, h, hbound⟩
      · exact hnew rfl

end World.Faithful

/-- A world is like itself only, as long as guards can rely on it. -/
def Likeness.itself : Likeness where
  related world twin := twin = world ∧ world.Faithful
  visits _ scope other := scope = other
  placed h := .inl h
  child _ _ _ _ := rfl
  ofValue _ _ := rfl
  outside {world _} h := ⟨world.thunks, world.sites, h.1⟩
  elsewhere {world twin after} h hkept := by
    obtain ⟨rfl, hfaithful⟩ := h
    have hafter : after.withStores twin.thunks twin.sites = after := by
      rw [← hkept.thunks, ← hkept.sites]
      rfl
    exact ⟨hafter, hfaithful.keepsStores hkept⟩
  size h := by rw [h.1]
  thunk {world twin} index h := by
    obtain ⟨rfl, -⟩ := h
    cases twin.thunks[index]? with
    | none => exact .none
    | some thunk =>
        cases thunk with
        | pending node scope => exact .some (.pending rfl)
        | forcing => exact .some .forcing
        | done v => exact .some (.done v)
  addThunk {world twin node scope other} h hvisit := by
    obtain ⟨rfl, hfaithful⟩ := h
    obtain rfl := hvisit
    exact ⟨rfl, hfaithful.remembers, hfaithful.declared⟩
  setThunk {world twin thunk like} id h hlike := by
    obtain ⟨rfl, hfaithful⟩ := h
    obtain rfl : thunk = like := by
      cases hlike with
      | pending visit => rw [visit]
      | forcing => rfl
      | done v => rfl
    exact ⟨rfl, hfaithful.remembers, hfaithful.declared⟩
  addFunction {world twin callable} h _ hdeclared _ := by
    obtain ⟨rfl, hfaithful⟩ := h
    exact ⟨rfl, hfaithful.addFunction hdeclared⟩
  function _ _ _ _ _ := rfl
  bindSite {world twin node scope site arguments ref callable} h _ _ hfunction := by
    obtain ⟨rfl, hfaithful⟩ := h
    refine ⟨?_, fun _ _ _ => ⟨fun _ _ _ => rfl, fun _ _ _ _ _ => rfl⟩⟩
    rcases hfaithful.bindSite site arguments hfunction with
      ⟨bound, after, nodes, hrun, hafter, -⟩ | ⟨signal, hrun⟩
    · rw [hrun]
      exact .ok ⟨rfl, hafter⟩
    · rw [hrun]
      exact .error ⟨rfl, hfaithful⟩

/-! ## The slots of a call frame -/

def World.HasSlots (world : World) (frame : FrameId) (count : Nat) : Prop :=
  ∃ found call, world.frame? frame = some found ∧ found.call = some call ∧
    count ≤ call.slots.length ∧ count ≤ call.supplied.length

namespace World

variable {world after : World} {frame : FrameId} {count : Nat}

theorem HasSlots.mono (h : world.HasSlots frame count) (hextends : world.Extends after) :
    after.HasSlots frame count := by
  obtain ⟨found, call, hfound, hcall, hslots, hsupplied⟩ := h
  obtain ⟨later, hlater, hsame⟩ := hextends frame found hfound
  have hshape := hsame.call
  rw [hcall] at hshape
  obtain ⟨now, hnow, heq⟩ := Option.map_eq_some_iff.mp hshape
  simp only [CallSlots.shape, Prod.mk.injEq] at heq
  exact ⟨later, now, hlater, hnow, by omega, by omega⟩

theorem HasSlots.hasSlot (h : world.HasSlots frame count) {index : Nat} (hindex : index < count) :
    world.hasSlot frame index = true := by
  obtain ⟨found, call, hfound, hcall, hslots, hsupplied⟩ := h
  have hslot : index < call.slots.length := by omega
  have hrecord : index < call.supplied.length := by omega
  simp [World.hasSlot, hfound, hcall, hslot, hrecord]

theorem hasSlots_addCallFrame (world : World) (parent : FrameId) (spec : LambdaList Node) :
    (world.addCallFrame parent spec).2.HasSlots (world.addCallFrame parent spec).1 spec.size := by
  refine ⟨⟨[], [], some parent, some (.unfilled spec), world.missingPolicy parent⟩, .unfilled spec,
    ?_, rfl, ?_, ?_⟩
  · exact (frame?_addFrame _ _ _).trans (if_pos rfl)
  · simp [CallSlots.unfilled]
  · simp [CallSlots.unfilled]

end World

/-! ## The values of bound arguments -/

theorem Primitive.reads_le {p : Primitive} {spec : LambdaList Node}
    (h : (LambdaList.parse p.parameters : Except Cause (LambdaList Node)) = .ok spec) :
    p.reads ≤ spec.size := by
  cases p with
  | arith op => exact Nat.zero_le _
  | compare relation => exact Nat.zero_le _
  | list => exact Nat.zero_le _
  | _ =>
      cases h
      decide

private theorem Primitive.finds_of_reads_le (p : Primitive) {vs : List Value}
    (h : p.reads ≤ vs.length) :
    p.finds vs = true := by
  unfold Primitive.finds
  rcases primitive_plainly inherited_true p fun v (_ : v ∈ vs) => trivial with hplain | ⟨hfew, -⟩
  · cases hrun : p.run vs with
    | ok v => rfl
    | error cause =>
        rw [hrun] at hplain
        simp [hplain.supplied]
  · omega

theorem Callable.Declared.finds {native : Native} (h : (Callable.native native).Declared)
    {vs : List Value} (hlength : vs.length = native.spec.size) : native.code.finds vs = true := by
  obtain ⟨name, spec, doc, code⟩ := native
  cases code with
  | host run => rfl
  | primitive p =>
      have hreads : p.reads ≤ spec.size := Primitive.reads_le h
      exact p.finds_of_reads_le (by rw [hlength]; exact hreads)

namespace Eval

theorem isList_of_rest {ev : Evaluator} {caller : FrameId} {p : Parameter Node} {bound : Bound}
    {v : Value} {world after : World} (h : p.Suits bound)
    (hrun : argumentValue ev caller bound world = .ok v after) :
    (p.role != .rest || v.isList) = true := by
  by_cases hrole : p.role = .rest
  · obtain ⟨nodes, rfl⟩ := h hrole
    obtain ⟨items, _, -, hpure⟩ := bind_eq_ok_iff.mp hrun
    cases hpure
    simp [Value.isList]
  · simp [hrole]

theorem argumentValues_length {ev : Evaluator} {caller : FrameId} {bounds : List Bound}
    {vs : List Value} {world after : World}
    (hrun : argumentValues ev caller bounds world = .ok vs after) : vs.length = bounds.length := by
  induction bounds generalizing vs world with
  | nil =>
      cases hrun
      rfl
  | cons bound bounds ih =>
      obtain ⟨v, middle, -, hothers⟩ := bind_eq_ok_iff.mp hrun
      obtain ⟨others, last, hothers, hwhole⟩ := bind_eq_ok_iff.mp hothers
      cases hwhole
      simp [ih hothers]

/-! ## No guard is ever missed -/

namespace Guarded

theorem require_bind {α : Type} {condition : Bool} (h : condition = true) (fault : Eval Unit)
    (next : Unit → Eval α) : (require fault condition >>= next) = next () := by
  rw [h]
  rfl

private theorem parameterSlot_extends {limit : Nat} {ev : Evaluator}
    (hev : ∀ trace, (Contract.extending limit).Evaluates ev trace)
    {caller frame : FrameId} {p : Parameter Node} {bound : Bound} {filled : Slot × Bool}
    {world after : World} (hrun : parameterSlot ev caller frame p bound world = .ok filled after) :
    world.Extends after := by
  have hkeeps : (Contract.extending limit).Keeps _ _ world
    (parameterSlot ev caller frame p bound) :=
    (extending_sound limit).parameterSlot_keeps (hev world.trace) ⟨trivial, rfl⟩ trivial trivial
      (fun _ _ => trivial) fun _ _ => trivial
  exact (hkeeps.ok hrun).1.change

section

variable {fault : Eval Unit} {limit : Nat} {ev ev' : Evaluator}
  (h : ev.Agree Likeness.itself ev')
  (hev : ∀ trace, (Contract.extending limit).Evaluates ev trace)

include h hev

private theorem fillSlots_same (caller frame : FrameId) (index : Nat) {ps : List (Parameter Node)}
    (bounds : List Bound) {world : World} (hworld : world.Faithful)
    (hslots : world.HasSlots frame (index + ps.length)) :
    SameResult Likeness.itself.related (Eval.fillSlots ev caller frame index ps bounds world)
      (fillSlots fault ev' caller frame index ps bounds world) := by
  induction ps generalizing index bounds world with
  | nil =>
      unfold Eval.fillSlots fillSlots
      exact .ok ⟨rfl, hworld⟩
  | cons p ps ih =>
      cases bounds with
      | nil =>
          unfold Eval.fillSlots fillSlots
          exact .ok ⟨rfl, hworld⟩
      | cons bound bounds =>
          have hslot : Agree Likeness.itself (parameterSlot ev caller frame p bound)
              (parameterSlot ev' caller frame p bound) :=
            parameterSlot_agree h frame (fun _ _ _ => rfl) fun _ _ => rfl
          unfold Eval.fillSlots fillSlots
          refine (hslot world world ⟨rfl, hworld⟩).bind ?_
          rintro ⟨slot, supplied⟩ _ after hrun ⟨rfl, hafter⟩
          -- evaluating the argument leaves the new frame its slots
          have hstill := hslots.mono (parameterSlot_extends hev hrun)
          have hguard : after.hasSlot frame index = true := hstill.hasSlot (by simp)
          have hfilled := after.extends_modifyFrame frame fun found =>
            found.sameShape_fillSlot index slot supplied
          rw [List.length_cons, ← Nat.add_assoc, Nat.add_right_comm] at hstill
          simp only [run_get_bind, require_bind hguard]
          exact ih (index + 1) bounds (hafter.keepsStores ⟨rfl, rfl, rfl⟩) (hstill.mono hfilled)

private theorem callFrame_same (caller defining : FrameId) (arguments : BoundArguments)
    {world : World} (hworld : world.Faithful) :
    SameResult Likeness.itself.related (Eval.callFrame ev caller defining arguments world)
      (callFrame fault ev' caller defining arguments world) := by
  have hslots := world.hasSlots_addCallFrame defining arguments.spec
  have hfilled : SameResult Likeness.itself.related
      (Eval.fillSlots ev caller (world.addCallFrame defining arguments.spec).1 0
        arguments.spec.parameters arguments.bound (world.addCallFrame defining arguments.spec).2)
      (fillSlots fault ev' caller (world.addCallFrame defining arguments.spec).1 0
        arguments.spec.parameters arguments.bound (world.addCallFrame defining arguments.spec).2) :=
    fillSlots_same h hev caller _ 0 arguments.bound (hworld.keepsStores ⟨rfl, rfl, rfl⟩)
      (by rw [Nat.zero_add]; exact hslots)
  refine hfilled.bind ?_
  rintro _ _ after - ⟨rfl, hafter⟩
  exact .ok ⟨rfl, hafter⟩

omit hev in
private theorem argumentValues_same (caller : FrameId) {ps : List (Parameter Node)}
    {bounds : List Bound} (hbounds : List.Forall₂ Parameter.Suits ps bounds) {world : World}
    (hworld : world.Faithful) :
    SameResult Likeness.itself.related (Eval.argumentValues ev caller bounds world)
      (argumentValues fault ev' caller ps bounds world) := by
  induction hbounds generalizing world with
  | nil => exact .ok ⟨rfl, hworld⟩
  | @cons p bound ps bounds hfirst _ ih =>
      have hvalue : Agree Likeness.itself (argumentValue ev caller bound)
          (argumentValue ev' caller bound) := argumentValue_agree h fun _ _ => rfl
      refine (hvalue world world ⟨rfl, hworld⟩).bind ?_
      rintro v _ after hrun ⟨rfl, hafter⟩
      rw [require_bind (isList_of_rest hfirst hrun)]
      refine (ih hafter).bind ?_
      rintro vs _ last - ⟨rfl, hlast⟩
      exact .ok ⟨rfl, hlast⟩

theorem invoke_same (caller : FrameId) {callable : Callable} {arguments : BoundArguments}
    {nodes : List Node} (hdeclared : callable.Declared)
    (hbound : bindArguments callable.spec nodes = .ok arguments) {world : World}
    (hworld : world.Faithful) :
    SameResult Likeness.itself.related (Eval.invoke ev caller callable arguments world)
      (invoke fault ev' caller callable arguments world) := by
  cases callable with
  | closure closure =>
      refine (callFrame_same h hev caller closure.scope arguments hworld).bind ?_
      rintro frame _ after - ⟨rfl, hafter⟩
      exact (body_agree h frame .nil fun _ _ _ => rfl).catchReturn after after ⟨rfl, hafter⟩
  | native native =>
      have hsuits : List.Forall₂ Parameter.Suits native.spec.parameters arguments.bound :=
        suits_of_bindArguments hbound
      refine (argumentValues_same h caller hsuits hworld).bind ?_
      rintro vs _ after hrun ⟨rfl, hafter⟩
      have hlength : vs.length = native.spec.size :=
        (argumentValues_length hrun).trans hsuits.length_eq.symm
      rw [require_bind (hdeclared.finds hlength)]
      exact runNative_agree h caller caller native.code vs after after ⟨rfl, hafter⟩

theorem callFunction_agree (ref : FunctionRef) (arguments : List Value) :
    Agree Likeness.itself (Eval.callFunction ev ref arguments)
      (callFunction fault ev' ref arguments) := by
  refine callableOf_bind_agree ref ?_
  rintro _ world callable ⟨rfl, hworld⟩ hfunction
  cases hbound : bindArguments callable.spec (arguments.map (Node.ofValue · none)) with
  | error cause => exact .error ⟨rfl, hworld⟩
  | ok bound =>
      exact invoke_same h hev World.root
        (hworld.declared callable (Array.mem_of_getElem? hfunction))
        hbound hworld

theorem callSite_agree (scope : FrameId) (site : Nat) (arguments : List Node) (ref : FunctionRef) :
    Agree Likeness.itself (Eval.callSite ev scope site arguments ref)
      (callSite fault ev' scope site arguments ref) := by
  refine callableOf_bind_agree ref ?_
  rintro _ world callable ⟨rfl, hworld⟩ hfunction
  rcases hworld.bindSite site arguments hfunction with
    ⟨bound, after, nodes, hrun, hafter, hbound⟩ | ⟨signal, hrun⟩
  · have hbind : SameResult Likeness.itself.related
        (bindSite site arguments ref callable.spec world)
        (bindSite site arguments ref callable.spec world) := by
      rw [hrun]
      exact .ok ⟨rfl, hafter⟩
    refine hbind.bind ?_
    rintro found _ last hfound ⟨rfl, hlast⟩
    rw [hrun] at hfound
    cases hfound
    exact invoke_same h hev scope (hworld.declared callable (Array.mem_of_getElem? hfunction))
      hbound hlast
  · have hbind : SameResult Likeness.itself.related
        (bindSite site arguments ref callable.spec world)
        (bindSite site arguments ref callable.spec world) := by
      rw [hrun]
      exact .error ⟨rfl, hworld⟩
    refine hbind.bind ?_
    intro found last other hfound
    rw [hrun] at hfound
    cases hfound

theorem form_agree (fuel : Nat) (scope : FrameId) (parameters : BuiltIn) :
    Agree Likeness.itself (Eval.form ev fuel scope parameters)
      (form fault ev' fuel scope parameters) := by
  have hvalues (nodes : List Node) :
      Agree Likeness.itself (values ev scope nodes) (values ev' scope nodes) :=
    values_agree h fun _ _ => rfl
  cases parameters with
  | funcall callee arguments =>
      exact callee_agree h scope (fun _ => rfl) fun ref => (hvalues arguments).bind fun vs =>
        callFunction_agree h hev ref vs
  | applyList callee arguments =>
      exact callee_agree h scope (fun _ => rfl) fun ref => (hvalues arguments).bind fun vs =>
        (spreadArguments_agree vs).bind fun items => callFunction_agree h hev ref items
  | _ => exact Eval.form_agree h fuel scope fun _ _ _ => rfl

theorem code_agree (fuel : Nat) (scope : FrameId) (node : Node) :
    Agree Likeness.itself (Eval.code ev fuel scope node.code)
      (code fault ev' fuel scope node.code) := by
  have hsame : Agree Likeness.itself (Eval.code ev fuel scope node.code)
      (Eval.code ev' fuel scope node.code) := Eval.code_agree h fuel rfl
  generalize node.code = code at hsame
  cases code with
  | form slot =>
      obtain ⟨content⟩ := slot
      cases content with
      | none => exact hsame
      | some parameters => exact form_agree h hev fuel scope parameters
  | callNamed site name arguments =>
      exact (resolveFunction_agree h scope name).bind fun ref =>
        callSite_agree h hev scope site arguments ref
  | callComputed site callee arguments =>
      exact callee_agree h scope (fun _ => rfl) fun ref =>
        callSite_agree h hev scope site arguments ref
  | _ => exact hsame

end

theorem evaluator_agree (fault : Eval Unit) (limit fuel : Nat) :
    (Eval.evaluator limit fuel).Agree Likeness.itself (evaluator fault limit fuel) := by
  induction fuel with
  | zero => exact ⟨fun _ => .throw _, fun _ _ => .throw _⟩
  | succ fuel ih =>
      have hev (trace : Backtrace) : (Contract.extending limit).Evaluates
          (Eval.evaluator limit fuel) trace := by
        rw [← evaluatorUntil_never]
        exact (extending_sound limit).evaluatorUntil_evaluates (fun _ _ h => h) trivial
      refine ⟨?_, fun ref arguments => (callFunction_agree ih hev ref arguments).catchReturn⟩
      intro node scope other hvisit
      obtain rfl := hvisit
      refine (enter_agree limit ⟨node.name, node.position, scope⟩).bind fun _ => ?_
      exact (code_agree ih hev fuel scope node).observe.bind fun outcome =>
        leave_agree node.position outcome

end Guarded

theorem SameResult.eq {α : Type} {a b : EStateM.Result Signal World α}
    (h : SameResult Likeness.itself.related a b) : b = a := by
  cases h with
  | ok after => rw [after.1]
  | error after => rw [after.1]

namespace Guarded

variable (fault : Eval Unit) (limit fuel : Nat) {world : World} (h : world.Faithful)

include h

/-- Whatever is put in the place of a missed guard, evaluations go as they do without guards. -/
theorem node_eq (scope : FrameId) (node : Node) :
    (evaluator fault limit fuel).node scope node world =
      (Eval.evaluator limit fuel).node scope node world :=
  ((evaluator_agree fault limit fuel).node rfl world world ⟨rfl, h⟩).eq

theorem call_eq (ref : FunctionRef) (arguments : List Value) :
    catchReturn (callFunction fault (evaluator fault limit fuel) ref arguments) world =
      Interpreter.call (Eval.evaluator limit fuel) ref arguments world :=
  ((evaluator_agree fault limit (fuel + 1)).call ref arguments world world ⟨rfl, h⟩).eq

end Guarded

end Eval

end LispEngine
