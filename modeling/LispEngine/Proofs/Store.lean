import LispEngine.Proofs.Compiled
import LispEngine.Proofs.Moments

/-!
# What a world holds

A regime says what values, nodes and failures are allowed, and a world is in order when everything
in it is allowed: the frames, the deferred arguments, the functions, the table and what the call
sites remember. Evaluations of allowed nodes leave a world in order, and leave the frames usable
that were usable before.
-/

namespace LispEngine

structure Frame.Holds (V : Value → Prop) (frame : Frame) : Prop where
  locals : ∀ pair ∈ frame.locals, V pair.2
  slots : ∀ call, frame.call = some call → ∀ v, Slot.ready v ∈ call.slots → V v

namespace Frame.Holds

variable {V : Value → Prop} {frame : Frame}

theorem find (hV : Inherited V) (h : frame.Holds V) {name : String} {v : Value}
    (hfound : frame.find? name = some (.value v)) : V v := by
  unfold Frame.find? at hfound
  split at hfound
  · rename_i u hlocal
    obtain rfl : u = v := by simpa using hfound
    exact h.locals _ (mem_of_lookup hlocal)
  · obtain ⟨call, hcall, hin⟩ := Option.bind_eq_some_iff.mp hfound
    rcases Option.or_eq_some_iff.mp hin with hslot | ⟨-, hflag⟩
    · obtain ⟨slot, hslot, hready⟩ := Option.bind_eq_some_iff.mp hslot
      obtain ⟨index, -, hindex⟩ := Option.bind_eq_some_iff.mp hslot
      cases slot with
      | unset => cases hready
      | deferred thunk => cases hready
      | ready u =>
          obtain rfl : u = v := by simpa [Slot.found?] using hready
          exact h.slots call hcall u (List.mem_of_getElem? hindex)
    · obtain ⟨b, -, hb⟩ := Option.map_eq_some_iff.mp hflag
      obtain rfl : Value.bool b = v := by simpa using hb
      exact hV.leaf rfl

theorem empty (parent : Option FrameId) (missing : MissingPolicy) :
    Frame.Holds V ⟨[], [], parent, none, missing⟩ :=
  ⟨by simp, by simp⟩

theorem unfilled (spec : LambdaList Node) (parent : Option FrameId) (missing : MissingPolicy) :
    Frame.Holds V ⟨[], [], parent, some (.unfilled spec), missing⟩ := by
  refine ⟨by simp, ?_⟩
  rintro call ⟨rfl⟩ v hv
  simp [CallSlots.unfilled] at hv

theorem set (h : frame.Holds V) (name : String) {v : Value} (hv : V v) :
    (frame.set name v).Holds V := by
  refine ⟨?_, h.slots⟩
  intro pair hpair
  rcases Bindings.mem_insert hpair with rfl | hold
  · exact hv
  · exact h.locals pair hold

theorem fillSlot (h : frame.Holds V) (index : Nat) {slot : Slot} (supplied : Bool)
    (hslot : ∀ v, slot = .ready v → V v) : (frame.fillSlot index slot supplied).Holds V := by
  refine ⟨h.locals, ?_⟩
  intro call hcall v hv
  obtain ⟨old, hold, rfl⟩ := Option.map_eq_some_iff.mp hcall
  rcases List.mem_or_eq_of_mem_set hv with hmem | heq
  · exact h.slots old hold v hmem
  · exact hslot v heq.symm

theorem remove (h : frame.Holds V) (name : String) : (frame.remove name).2.Holds V := by
  refine ⟨fun pair hpair => h.locals pair (List.mem_filter.mp hpair).1, ?_⟩
  intro call hcall v hv
  obtain ⟨old, hold, rfl⟩ := Option.map_eq_some_iff.mp hcall
  simp only [CallSlots.remove] at hv
  cases hindex : old.spec.indexOf? name with
  | some index =>
      rw [hindex] at hv
      rcases List.mem_or_eq_of_mem_set hv with hmem | heq
      · exact h.slots old hold v hmem
      · cases heq
  | none =>
      rw [hindex] at hv
      exact h.slots old hold v hv

end Frame.Holds

structure Regime where
  limit : Nat
  value : Value → Prop
  loops : Prop
  /-- Whether the embedding program takes part. -/
  hosted : Prop
  /-- Whether frames that nothing refers to may hold anything. -/
  loose : Prop
  /-- Whether evaluations may be cut off. -/
  mayStop : Prop
  failure : Backtrace → Failure → Prop
  raised : Backtrace → Failure → Prop

namespace Regime

structure Lawful (R : Regime) : Prop where
  inherited : Inherited R.value
  plain {trace : Backtrace} {cause : Cause} : cause.Plain → R.failure trace (.of cause)
  thrown {trace : Backtrace} {kind : ErrorKind} {message : String} {v : Value} :
    R.value v → R.failure trace (.of (.thrown kind message (some v)))
  rethrown {trace : Backtrace} {id : Nat} {failure : Failure} :
    R.value (.error id failure) → R.failure trace failure
  leaving {trace : Backtrace} {failure : Failure} :
    R.raised trace failure → R.failure trace failure
  caught {trace : Backtrace} {failure : Failure} (id : Nat) : R.raised trace failure →
    (R.loose ∧ trace.isFull R.limit = true) ∨ R.value (.error id failure)
  full {trace : Backtrace} : trace.size ≤ R.limit → trace.isFull R.limit = true →
    R.raised trace (Eval.depthFailure R.limit trace)
  annotated {trace : Backtrace} (call : Call) {failure : Failure} :
    trace.isFull R.limit = false → R.hosted ∨ call.position.isSome = true →
      R.failure (trace.push call) failure →
        R.raised trace (failure.annotate call.position (trace.push call))
  loops_stop : R.loops → R.mayStop
  hosted_stop : R.hosted → R.mayStop

variable (R : Regime)

def fragment : Fragment where
  value := R.value
  loops := R.loops
  host action := R.hosted ∧ ∀ trace, action.Keeps R.value (R.failure trace)
  unplaced := R.hosted

def Usable (world : World) (id : FrameId) : Prop :=
  R.loose → ∃ frame, world.frame? id = some frame ∧ frame.Holds R.value

def ThunkAllowed (world : World) : Thunk → Prop
  | .pending node scope => node.Obeys R.fragment ∧ R.Usable world scope
  | .forcing => True
  | .done v => R.value v

def CallableAllowed : Callable → Prop
  | .closure closure => ∀ node ∈ closure.parts.children, node.Obeys R.fragment
  | .native native =>
      (∀ node ∈ LambdaParts.defaults native.spec, node.Obeys R.fragment) ∧
        match native.code with
        | .primitive _ => True
        | .host run => R.hosted ∧ ∀ trace arguments, (∀ v ∈ arguments, R.value v) →
            (run trace arguments).Keeps R.value (R.failure trace)

def FrameAllowed (world : World) (frame : Frame) : Prop :=
  (R.loose ∨ frame.Holds R.value) ∧ ∀ parent, frame.parent = some parent → R.Usable world parent

structure InOrder (world : World) : Prop where
  depth : world.trace.size ≤ R.limit
  root : R.Usable world World.root
  frames : ∀ frame ∈ world.frames, R.FrameAllowed world frame
  thunks : ∀ thunk ∈ world.thunks, R.ThunkAllowed world thunk
  functions : ∀ callable ∈ world.defs.functions, R.CallableAllowed callable
  closures : ∀ closure, .closure closure ∈ world.defs.functions → R.Usable world closure.scope
  table : world.defs.Obeys R.fragment fun _ => True
  sites : ∀ call, some call ∈ world.sites → call.arguments.All (Node.Obeys R.fragment)

def Retains (before after : World) : Prop := ∀ id, R.Usable before id → R.Usable after id

variable {R} {world after : World}

theorem FrameAllowed.mono {frame : Frame} (h : R.FrameAllowed world frame)
    (hkeep : R.Retains world after) : R.FrameAllowed after frame :=
  ⟨h.1, fun parent hparent => hkeep parent (h.2 parent hparent)⟩

theorem ThunkAllowed.mono {thunk : Thunk} (h : R.ThunkAllowed world thunk)
    (hkeep : R.Retains world after) : R.ThunkAllowed after thunk := by
  cases thunk with
  | pending node scope => exact ⟨h.1, hkeep scope h.2⟩
  | forcing => trivial
  | done v => exact h

namespace InOrder

variable (h : R.InOrder world)

include h

theorem holds {id : FrameId} {frame : Frame} (hid : R.Usable world id)
    (hframe : world.frame? id = some frame) : frame.Holds R.value := by
  rcases (h.frames frame (Array.mem_of_getElem? hframe)).1 with hloose | hholds
  · obtain ⟨found, hfound, hholds⟩ := hid hloose
    rw [hframe] at hfound
    obtain rfl := Option.some.inj hfound
    exact hholds
  · exact hholds

private theorem usable_chainWithin {steps : Nat} {id : FrameId} (hid : R.Usable world id) :
    ∀ frame ∈ world.chainWithin steps id, R.Usable world frame := by
  induction steps generalizing id with
  | zero => simp [World.chainWithin]
  | succ steps ih =>
      unfold World.chainWithin
      split
      · simp
      · rename_i frame hframe
        refine List.forall_mem_cons.mpr ⟨hid, ?_⟩
        split
        · simp
        · rename_i parent hparent
          exact ih ((h.frames frame (Array.mem_of_getElem? hframe)).2 parent hparent)

theorem find (hV : Inherited R.value) {id : FrameId} {name : String} {v : Value}
    (hid : R.Usable world id) (hfound : world.find? id name = some (.value v)) : R.value v := by
  obtain ⟨binder, hbinder, hlocal⟩ := List.exists_of_findSome?_eq_some hfound
  obtain ⟨frame, hframe, hvalue⟩ := Option.bind_eq_some_iff.mp hlocal
  exact (h.holds (h.usable_chainWithin hid binder hbinder) hframe).find hV hvalue

/-! ## Changes of one part -/

theorem withFrames {frames : Array Frame} (hkeep : R.Retains world { world with frames })
    (hframes : ∀ frame ∈ frames, R.FrameAllowed { world with frames } frame) :
    R.InOrder { world with frames } where
  depth := h.depth
  root := hkeep _ h.root
  frames := hframes
  thunks thunk hthunk := (h.thunks thunk hthunk).mono hkeep
  functions := h.functions
  closures closure hclosure := hkeep _ (h.closures closure hclosure)
  table := h.table
  sites := h.sites

theorem withThunks {thunks : Array Thunk}
    (hthunks : ∀ thunk ∈ thunks, R.ThunkAllowed world thunk) :
    R.InOrder { world with thunks } where
  depth := h.depth
  root := h.root
  frames := h.frames
  thunks := hthunks
  functions := h.functions
  closures := h.closures
  table := h.table
  sites := h.sites

theorem withDefs {defs : Definitions}
    (hfunctions : ∀ callable ∈ defs.functions, R.CallableAllowed callable)
    (hclosures : ∀ closure, .closure closure ∈ defs.functions → R.Usable world closure.scope)
    (htable : defs.Obeys R.fragment fun _ => True) : R.InOrder { world with defs } where
  depth := h.depth
  root := h.root
  frames := h.frames
  thunks := h.thunks
  functions := hfunctions
  closures := hclosures
  table := htable
  sites := h.sites

theorem withSites {sites : Array (Option CachedCall)}
    (hsites : ∀ call, some call ∈ sites → call.arguments.All (Node.Obeys R.fragment)) :
    R.InOrder { world with sites } where
  depth := h.depth
  root := h.root
  frames := h.frames
  thunks := h.thunks
  functions := h.functions
  closures := h.closures
  table := h.table
  sites := hsites

theorem withTrace {trace : Backtrace} (htrace : trace.size ≤ R.limit) :
    R.InOrder { world with trace } where
  depth := htrace
  root := h.root
  frames := h.frames
  thunks := h.thunks
  functions := h.functions
  closures := h.closures
  table := h.table
  sites := h.sites

theorem withErrorCount (errorCount : Nat) : R.InOrder { world with errorCount } where
  depth := h.depth
  root := h.root
  frames := h.frames
  thunks := h.thunks
  functions := h.functions
  closures := h.closures
  table := h.table
  sites := h.sites

/-! ## Frames -/

theorem addFrame {frame : Frame} (hframe : R.FrameAllowed world frame) :
    R.InOrder (world.addFrame frame).2 ∧ R.Retains world (world.addFrame frame).2 ∧
      (frame.Holds R.value → R.Usable (world.addFrame frame).2 (world.addFrame frame).1) := by
  have hkeep : R.Retains world (world.addFrame frame).2 := by
    intro id hid hloose
    obtain ⟨found, hfound, hholds⟩ := hid hloose
    refine ⟨found, ?_, hholds⟩
    rw [World.frame?_addFrame, if_neg, hfound]
    rintro rfl
    simp [World.frame?, World.addFrame] at hfound
  refine ⟨h.withFrames hkeep ?_, hkeep, ?_⟩
  · intro other hother
    rcases Array.mem_push.mp hother with hold | rfl
    · exact (h.frames other hold).mono hkeep
    · exact hframe.mono hkeep
  · intro hholds _
    exact ⟨frame, by rw [World.frame?_addFrame, if_pos rfl], hholds⟩

theorem modifyFrame (id : FrameId) {change : Frame → Frame}
    (hholds : ∀ frame : Frame, frame.Holds R.value → (change frame).Holds R.value)
    (hparent : ∀ frame, (change frame).parent = frame.parent) :
    R.InOrder (world.modifyFrame id change) ∧ R.Retains world (world.modifyFrame id change) := by
  have hkeep : R.Retains world (world.modifyFrame id change) := by
    intro other hother hloose
    obtain ⟨found, hfound, hfoundHolds⟩ := hother hloose
    rw [World.frame?_modifyFrame, hfound]
    split
    · exact ⟨change found, rfl, hholds found hfoundHolds⟩
    · exact ⟨found, rfl, hfoundHolds⟩
  refine ⟨h.withFrames hkeep ?_, hkeep⟩
  intro frame hframe
  obtain ⟨index, hindex⟩ := Array.getElem?_of_mem hframe
  have hplace : (world.modifyFrame id change).frame? ⟨index⟩ = some frame := hindex
  rw [World.frame?_modifyFrame] at hplace
  split at hplace
  · obtain ⟨old, hold, rfl⟩ := Option.map_eq_some_iff.mp hplace
    have hallowed := (h.frames old (Array.mem_of_getElem? hold)).mono hkeep
    refine ⟨hallowed.1.imp_right (hholds old), ?_⟩
    rw [hparent]
    exact hallowed.2
  · exact (h.frames frame (Array.mem_of_getElem? hplace)).mono hkeep

theorem install (name : String) {entry : Entry}
    (hentry : entry.kind.Obeys R.fragment (fun _ => True) (Text.canonical name)) :
    R.InOrder { world with defs := world.defs.install name entry } := by
  refine h.withDefs h.functions h.closures ?_
  intro pair hpair
  rcases Bindings.mem_insert hpair with rfl | hold
  · exact hentry
  · exact h.table pair hold

theorem addFunction {callable : Callable} (hcallable : R.CallableAllowed callable)
    (hscope : ∀ closure, callable = .closure closure → R.Usable world closure.scope) :
    R.InOrder { world with defs := (world.defs.addFunction callable).2 } := by
  refine h.withDefs ?_ ?_ h.table
  · intro found hfound
    rcases Array.mem_push.mp hfound with hold | rfl
    · exact h.functions found hold
    · exact hcallable
  · intro closure hclosure
    rcases Array.mem_push.mp hclosure with hold | heq
    · exact h.closures closure hold
    · exact hscope closure heq.symm

end InOrder

/-! ## The world at the start -/

theorem InOrder.addNative (h : R.InOrder world) (name : String) {spec : LambdaList Node}
    (doc : String) {code : NativeCode}
    (hnative : R.CallableAllowed (.native ⟨Text.canonical name, spec, some doc, code⟩)) :
    R.InOrder { world with defs := world.defs.addNative name spec doc code } := by
  refine (h.addFunction hnative ?_).install name ?_
  · rintro closure ⟨⟩
  · trivial

theorem InOrder.addSpecialForm (h : R.InOrder world) (form : SpecialForm) :
    R.InOrder { world with defs := world.defs.addSpecialForm form } := by
  refine h.install form.name ?_
  rintro rfl
  exact .inr (by decide +kernel)

theorem InOrder.addSpecialExpression (h : R.InOrder world) (expression : SpecialExpression) :
    R.InOrder { world with defs := world.defs.addSpecialExpression expression } := by
  refine h.install expression.name ?_
  trivial

theorem InOrder.addPrimitive (h : R.InOrder world) (primitive : Primitive) :
    R.InOrder { world with defs := world.defs.addPrimitive primitive } := by
  have hread := LambdaReader.parse_reads (N := Node.Obeys R.fragment) primitive.parameters
  unfold Definitions.addPrimitive
  split
  · rename_i spec hspec
    rw [hspec] at hread
    exact h.addNative primitive.name primitive.doc ⟨hread, trivial⟩
  · exact h

private theorem inOrder_foldl {α : Type} {add : Definitions → α → Definitions}
    (hadd : ∀ {world : World}, R.InOrder world → ∀ a,
      R.InOrder { world with defs := add world.defs a })
    (items : List α) (h : R.InOrder world) :
    R.InOrder { world with defs := items.foldl add world.defs } := by
  induction items generalizing world with
  | nil => exact h
  | cons item items ih => exact ih (hadd h item)

theorem initial_inOrder (missing : MissingPolicy) : R.InOrder (World.initial missing) := by
  have hempty : R.InOrder { World.initial missing with defs := .empty } := {
    depth := Nat.zero_le _
    root := fun _ => ⟨Frame.root missing, rfl, Frame.Holds.empty none missing⟩
    frames := by
      intro frame hframe
      obtain rfl : frame = Frame.root missing := by simpa [World.initial] using hframe
      exact ⟨.inr (Frame.Holds.empty none missing), by simp [Frame.root]⟩
    thunks := by simp [World.initial]
    functions := by simp [Definitions.empty]
    closures := by simp [Definitions.empty]
    table := by simp [Definitions.Obeys, Definitions.empty]
    sites := by simp [World.initial] }
  have hforms := inOrder_foldl InOrder.addSpecialForm SpecialForm.all hempty
  have hexpressions := inOrder_foldl InOrder.addSpecialExpression SpecialExpression.all hforms
  exact inOrder_foldl InOrder.addPrimitive Primitive.all hexpressions

/-! ## The contract of a regime -/

/-- Evaluations go from worlds in order to worlds in order, and retain the usable frames. When no
further node may be entered, nothing can be evaluated in any frame. -/
def contract (R : Regime) : Contract where
  limit := R.limit
  world := R.InOrder
  change := R.Retains
  scope := R.Usable
  own := R.Usable
  enter world id := R.Usable world id ∨ (R.loose ∧ world.trace.isFull R.limit = true)
  value := R.value
  node := Node.Obeys R.fragment
  failure := R.failure
  raised := R.raised
  hosted := R.hosted
  halted world := R.mayStop ∧ R.InOrder world
  fuelled fuel trace := R.mayStop ∨ R.limit < trace.size + fuel

theorem CallableAllowed.function {callable : Callable} (h : R.CallableAllowed callable)
    (hscope : ∀ closure, callable = .closure closure → R.Usable world closure.scope) :
    R.contract.Function world callable := by
  cases callable with
  | closure closure => exact ⟨h, hscope closure rfl⟩
  | native native =>
      refine ⟨h.1, ?_⟩
      have hcode := h.2
      cases hkind : native.code with
      | primitive primitive => trivial
      | host run =>
          rw [hkind] at hcode
          exact ⟨hcode.1, hcode.2 world.trace⟩

namespace Lawful

variable (hR : R.Lawful)

theorem next_of_frames_eq {world after : World} (h : R.InOrder after)
    (htrace : after.trace = world.trace) (hframes : after.frames = world.frames) :
    R.contract.Next world after := by
  refine ⟨h, htrace, ?_⟩
  intro id hid
  unfold Usable World.frame? at hid ⊢
  rwa [hframes]

theorem next_setThunk {world after : World} {id : ThunkId} {first last : Thunk}
    (hnext : R.contract.Next (world.setThunk id first) after)
    (hlast : R.ThunkAllowed after last) :
    R.contract.Next world (after.setThunk id last) := by
  have horder : R.InOrder after := hnext.world
  refine ⟨horder.withThunks ?_, hnext.trace, hnext.change⟩
  intro thunk hthunk
  rcases Array.mem_or_eq_of_mem_setIfInBounds hthunk with hold | rfl
  · exact horder.thunks thunk hold
  · exact hlast

theorem next_addFrame {world : World} {frame : Frame} (h : R.InOrder world)
    (hframe : R.FrameAllowed world frame) (hholds : frame.Holds R.value) :
    R.contract.Next world (world.addFrame frame).2 ∧
      R.Usable (world.addFrame frame).2 (world.addFrame frame).1 := by
  obtain ⟨horder, hkeep, husable⟩ := h.addFrame hframe
  exact ⟨⟨horder, rfl, hkeep⟩, husable hholds⟩

theorem next_setLocal {world : World} (id : FrameId) (name : String) {v : Value}
    (h : R.InOrder world) (hv : R.value v) : R.contract.Next world (world.setLocal id name v) := by
  obtain ⟨horder, hkeep⟩ := h.modifyFrame id (fun _ hframe => hframe.set name hv) fun _ => rfl
  exact ⟨horder, rfl, hkeep⟩

include hR

private theorem next_addHandler {world : World} {scope : FrameId} (name : String)
    {failure : Failure} (h : R.InOrder world) (hscope : R.Usable world scope)
    (hraised : R.raised world.trace failure) :
    R.contract.Next world (world.addHandler scope name failure).2 ∧
      R.contract.enter (world.addHandler scope name failure).2
        (world.addHandler scope name failure).1 := by
  let frame : Frame := ⟨[(name, .error world.errorCount failure)], [], some scope, none,
    world.missingPolicy scope⟩
  have hparent : ∀ parent, frame.parent = some parent → R.Usable world parent := by
    rintro parent ⟨rfl⟩
    exact hscope
  rcases hR.caught world.errorCount hraised with ⟨hloose, hfull⟩ | hvalue
  · obtain ⟨horder, hkeep, -⟩ := h.addFrame ⟨.inl hloose, hparent⟩
    exact ⟨⟨horder.withErrorCount _, rfl, hkeep⟩, .inr ⟨hloose, hfull⟩⟩
  · have hholds : frame.Holds R.value := ⟨by simpa [frame] using hvalue, by simp [frame]⟩
    obtain ⟨horder, hkeep, husable⟩ := h.addFrame ⟨.inr hholds, hparent⟩
    exact ⟨⟨horder.withErrorCount _, rfl, hkeep⟩, .inl (husable hholds)⟩

theorem contract_sound : R.contract.Sound where
  refl _ _ hid := hid
  trans h h' id hid := h' id (h id hid)
  scope_mono h hid := h _ hid
  own_mono h hid := h _ hid
  enter_mono := by
    intro before after id hnext henter
    refine henter.imp (hnext.change id) ?_
    rintro ⟨hloose, hfull⟩
    exact ⟨hloose, by rw [hnext.trace]; exact hfull⟩
  own_scope h := h
  scope_enter h := .inl h
  inherited := hR.inherited
  plain := hR.plain
  thrown := hR.thrown
  rethrown := hR.rethrown
  leaving := hR.leaving
  child hnode hchild := hnode.inner _ hchild
  constant hnode hconstant := hnode.constant hconstant
  ofValue hv := Node.Obeys.ofValue hv none
  unset _ hnode hcode := (hnode.slot_ne_empty hcode).elim
  loop hnode hcode hworld := ⟨hR.loops_stop (hnode.form hcode), hworld⟩
  host := by
    intro node parameters action trace hnode hcode
    have hown := hnode.own
    rw [hcode] at hown
    exact ⟨hown.1, hown.2 trace⟩
  root h := h.root
  find h hid hfound := h.find hR.inherited hid hfound
  addChild := by
    intro world parent h hparent
    have hholds := Frame.Holds.empty (V := R.value) (some parent) (world.missingPolicy parent)
    exact next_addFrame h ⟨.inr hholds, by rintro _ ⟨rfl⟩; exact hparent⟩ hholds
  addCallFrame := by
    intro world parent spec h hparent _
    have hholds := Frame.Holds.unfilled (V := R.value) spec (some parent)
      (world.missingPolicy parent)
    exact next_addFrame h ⟨.inr hholds, by rintro _ ⟨rfl⟩; exact hparent⟩ hholds
  addHandler name _ h hscope hraised := hR.next_addHandler name h hscope hraised
  setLocal name _ h _ hv := next_setLocal _ name h hv
  fillSlot := by
    intro world id index slot supplied h _ hslot
    have hready : ∀ v, slot = .ready v → R.value v := by
      rintro v rfl
      exact hslot
    obtain ⟨horder, hkeep⟩ := h.modifyFrame id
      (fun _ hframe => hframe.fillSlot index supplied hready) fun _ => rfl
    exact ⟨horder, rfl, hkeep⟩
  update := by
    intro world id node discipline pairs name v _ _ h _ hv
    cases discipline with
    | global => exact next_setLocal _ name h hv
    | nearest => exact next_setLocal _ name h hv
  addThunk := by
    intro world node scope h hnode hscope
    refine next_of_frames_eq (h.withThunks ?_) rfl rfl
    intro thunk hthunk
    rcases Array.mem_push.mp hthunk with hold | rfl
    · exact h.thunks thunk hold
    · exact ⟨hnode, hscope⟩
  done h hdone := h.thunks _ (Array.mem_of_getElem? hdone)
  pending := by
    intro world id node scope h hpending
    have hallowed := h.thunks _ (Array.mem_of_getElem? hpending)
    refine ⟨hallowed.1, h.withThunks ?_, .inl hallowed.2⟩
    intro thunk hthunk
    rcases Array.mem_or_eq_of_mem_setIfInBounds hthunk with hold | rfl
    · exact h.thunks thunk hold
    · trivial
  settle := by
    intro world after id node scope v _ _ hnext hv _
    exact next_setThunk hnext hv
  restore := by
    intro world after id node scope h hpending hnext
    have hallowed := h.thunks _ (Array.mem_of_getElem? hpending)
    exact next_setThunk hnext (hallowed.mono hnext.change)
  close := by
    intro world scope name parts h hscope hparts _
    refine next_of_frames_eq (h.addFunction hparts ?_) rfl rfl
    rintro closure ⟨rfl⟩
    exact hscope
  defineFunction := by
    intro world node name parts ref _ _ h
    refine next_of_frames_eq (h.install name ?_) rfl rfl
    trivial
  function := by
    intro world ref callable h hcallable
    have hmem := Array.mem_of_getElem? hcallable
    refine (h.functions callable hmem).function ?_
    rintro closure rfl
    exact h.closures closure hmem
  cached := by
    intro world site call h hcached
    obtain hsite := Option.join_eq_some_iff.mp hcached
    exact h.sites call (Array.mem_of_getElem? hsite)
  remember := by
    intro world site call h hcall _
    refine next_of_frames_eq (h.withSites ?_) rfl rfl
    intro other hother
    rcases Array.mem_or_eq_of_mem_setIfInBounds hother with hold | heq
    · exact h.sites other hold
    · obtain rfl := Option.some.inj heq
      exact hcall
  full h hfull := hR.full h.depth hfull
  entered := by
    intro world scope call h hroom henter
    have hsize : (world.entered call).trace.size ≤ R.limit := by
      rw [World.entered, Backtrace.size_push]
      exact Backtrace.isFull_eq_false.mp hroom
    refine ⟨h.withTrace hsize, ?_⟩
    rcases henter with husable | ⟨-, hfull⟩
    · exact husable
    · exact absurd hfull (Bool.eq_false_iff.mp hroom)
  left := by
    intro world after call h _ hnext
    have horder : R.InOrder after := hnext.world
    exact ⟨horder.withTrace h.depth, rfl, hnext.change⟩
  annotated := by
    intro world node scope failure h hroom hnode hconstant hfailure
    exact hR.annotated ⟨node.name, node.position, scope⟩ hroom (hnode.placed hconstant) hfailure
  spent := by
    intro world h hfuelled
    rcases hfuelled with hstop | hroom
    · exact ⟨hstop, h⟩
    · exact absurd h.depth (by omega)
  fuel := by
    intro trace fuel call hfuelled hroom
    refine hfuelled.imp_right ?_
    intro hlimit
    rw [Backtrace.size_push]
    omega
  hostFuel := by
    intro trace fuel hosted _
    exact .inl (hR.hosted_stop hosted)

end Lawful

end Regime

end LispEngine
