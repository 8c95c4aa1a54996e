import LispEngine.Proofs.Interruptions
import LispEngine.Proofs.Keywords
import LispEngine.Proofs.Outlines

/-!
# What parameters read as

The frame of a call is filled parameter by parameter, and the defaults among them run in the
unfinished frame. Whatever they do, they leave the slots of the frame alone: code assigns variables,
and only the call itself fills slots. So a parameter reads as what filled its slot, unless a
variable that was assigned in the frame hides it.
-/

namespace LispEngine

/-! ## What evaluations leave of calls and deferred arguments -/

def World.call? (world : World) (id : FrameId) : Option CallSlots :=
  (world.frame? id).bind (·.call)

structure World.KeepsCalls (before after : World) : Prop where
  size : before.frames.size ≤ after.frames.size
  call {id : FrameId} : id.index < before.frames.size → after.call? id = before.call? id

namespace World.KeepsCalls

variable {base world after : World} {id : FrameId}

theorem refl (world : World) : world.KeepsCalls world := ⟨Nat.le_refl _, fun _ => rfl⟩

theorem trans (h : base.KeepsCalls world) (h' : world.KeepsCalls after) :
    base.KeepsCalls after where
  size := h.size.trans h'.size
  call hid := (h'.call (hid.trans_le h.size)).trans (h.call hid)

variable (h : base.KeepsCalls world)

include h

theorem elsewhere (hframes : after.frames = world.frames) : base.KeepsCalls after := by
  have hcall (id : FrameId) : after.call? id = world.call? id := by
    rw [call?, call?, frame?, frame?, hframes]
  exact ⟨hframes ▸ h.size, fun hid => (hcall _).trans (h.call hid)⟩

theorem addFrame (frame : Frame) : base.KeepsCalls (world.addFrame frame).2 := by
  have hsize := h.size
  constructor
  · simp only [World.addFrame, Array.size_push]
    omega
  · intro id hid
    rw [call?, frame?_addFrame_of_lt (by omega)]
    exact h.call hid

theorem modifyFrame {change : Frame → Frame}
    (hchange : base.frames.size ≤ id.index ∨ ∀ frame : Frame, (change frame).call = frame.call) :
    base.KeepsCalls (world.modifyFrame id change) := by
  constructor
  · simpa [World.modifyFrame] using h.size
  · intro other hother
    rw [← h.call hother, call?, call?, frame?_modifyFrame]
    split
    · rename_i heq
      subst heq
      rcases hchange with hnew | hsame
      · omega
      · cases world.frame? other with
        | none => rfl
        | some frame => exact hsame frame
    · rfl

theorem setLocal (id : FrameId) (name : String) (v : Value) :
    base.KeepsCalls (world.setLocal id name v) :=
  h.modifyFrame (.inr fun _ => rfl)

end World.KeepsCalls

/-- Frames keep their slots, except for those that were not there at first, and deferred arguments
only advance. -/
def Contract.filling (limit : Nat) (base : World) : Contract where
  limit := limit
  world := base.KeepsCalls
  change before after := Advances before.thunks after.thunks
  scope _ _ := True
  own _ id := base.frames.size ≤ id.index
  enter _ _ := True
  value _ := True
  node _ := True
  failure _ _ := True
  raised _ _ := True
  hosted := True
  halted _ := True
  fuelled _ _ := True

namespace Contract

theorem filling_sound (limit : Nat) (base : World) : (filling limit base).Sound where
  refl world := .refl world.thunks
  trans := .trans
  addChild hw _ := ⟨⟨hw.addFrame _, rfl, .refl _⟩, hw.size⟩
  addCallFrame _ hw _ _ := ⟨⟨hw.addFrame _, rfl, .refl _⟩, hw.size⟩
  addHandler _ _ hw _ _ := ⟨⟨(hw.addFrame _).elsewhere rfl, rfl, .refl _⟩, trivial⟩
  setLocal _ _ hw _ _ := ⟨hw.setLocal _ _ _, rfl, .refl _⟩
  fillSlot _ _ _ hw hown _ := ⟨hw.modifyFrame (.inl hown), rfl, .refl _⟩
  update := by
    intro world id node discipline pairs name v _ _ hw _ _
    cases discipline with
    | global => exact ⟨hw.setLocal _ _ _, rfl, .refl _⟩
    | nearest => exact ⟨hw.setLocal _ _ _, rfl, .refl _⟩
  addThunk hw _ _ := ⟨hw.elsewhere rfl, rfl, .push _ _ _⟩
  pending hw _ := ⟨trivial, hw.elsewhere rfl, trivial⟩
  settle := by
    intro world after id node scope v _ hpending hnext _ _
    exact ⟨hnext.world.elsewhere rfl, hnext.trace,
      hnext.change.unmark hpending (.inr ⟨v, rfl⟩)⟩
  restore := by
    intro world after id node scope _ hpending hnext
    exact ⟨hnext.world.elsewhere rfl, hnext.trace, hnext.change.unmark hpending (.inl rfl)⟩
  close _ _ hw _ _ _ := ⟨hw.elsewhere rfl, rfl, .refl _⟩
  defineFunction _ _ _ hw := ⟨hw.elsewhere rfl, rfl, .refl _⟩
  function _ _ := function_of_nodes (fun _ _ => trivial) (fun _ _ => trivial) trivial
    (fun _ => trivial) fun _ _ => trivial
  cached _ _ := Ambient.bound _
  remember _ _ hw _ _ := ⟨hw.elsewhere rfl, rfl, .refl _⟩
  entered _ hw _ _ := ⟨hw.elsewhere rfl, trivial⟩
  left _ _ hnext := ⟨hnext.world.elsewhere rfl, rfl, hnext.change⟩

end Contract

structure World.Keeps (before after : World) : Prop where
  calls : before.KeepsCalls after
  thunks : Advances before.thunks after.thunks

theorem World.Keeps.refl (world : World) : world.Keeps world :=
  ⟨.refl world, .refl world.thunks⟩

theorem World.Keeps.trans {before middle after : World} (h : before.Keeps middle)
    (h' : middle.Keeps after) : before.Keeps after :=
  ⟨h.calls.trans h'.calls, h.thunks.trans h'.thunks⟩

namespace Eval

variable {limit fuel : Nat} {caller frame : FrameId} {before after : World}

theorem node_keeps_calls {scope : FrameId} {node : Node} {v : Value}
    (h : (evaluator limit fuel).node scope node before = .ok v after) : before.Keeps after := by
  have hhalt : ∀ world, never world = true → before.KeepsCalls world → True := fun _ _ _ => trivial
  have hev : (Contract.filling limit before).Evaluates (evaluatorUntil never limit fuel)
      before.trace :=
    (Contract.filling_sound limit before).evaluatorUntil_evaluates hhalt trivial
  rw [evaluatorUntil_never] at hev
  have hkeeps : (Contract.filling limit before).Outcome _ _ before
      ((evaluator limit fuel).node scope node before) :=
    hev.node ⟨.refl before, rfl⟩ trivial trivial
  rw [h] at hkeeps
  exact ⟨hkeeps.1.world, hkeeps.1.change⟩

theorem values_keeps_calls {scope : FrameId} {nodes : List Node} {vs : List Value}
    (h : values (evaluator limit fuel) scope nodes before = .ok vs after) :
    before.Keeps after := by
  induction nodes generalizing before vs with
  | nil =>
      cases h
      exact .refl _
  | cons node nodes ih =>
      obtain ⟨v, middle, hnode, hrest⟩ := bind_eq_ok_iff.mp h
      obtain ⟨us, last, hvalues, hpure⟩ := bind_eq_ok_iff.mp hrest
      cases hpure
      exact (node_keeps_calls hnode).trans (ih hvalues)

end Eval

/-! ## Filling slots -/

def Bound.isSupplied : Bound → Bool
  | missing => false
  | single _ => true
  | rest nodes => !nodes.isEmpty

/-- What a parameter is filled with, in the world in which its turn comes: the value of its
expression in the caller's frame or a deferred argument for it, the values of the rest, or the value
of its default in the frame of the call. -/
inductive Eval.Fills (ev : Evaluator) (caller frame : FrameId) (p : Parameter Node)
    (start : World) :
    Bound → Found → World → Prop where
  | argument {node : Node} {v : Value} {after : World} (isEager : p.isLazy = false)
      (run : ev.node caller node start = .ok v after) :
      Fills ev caller frame p start (.single node) (.value v) after
  | deferred {node : Node} (isLazy : p.isLazy = true) :
      Fills ev caller frame p start (.single node) (.thunk (start.addThunk node caller).1)
        (start.addThunk node caller).2
  | rest {nodes : List Node} {vs : List Value} {after : World}
      (run : values ev caller nodes start = .ok vs after) :
      Fills ev caller frame p start (.rest nodes) (.value (.list vs)) after
  | default {node : Node} {v : Value} {after : World} (hasDefault : p.default = some node)
      (run : ev.node frame node start = .ok v after) :
      Fills ev caller frame p start .missing (.value v) after
  | nothing (noDefault : p.default = none) :
      Fills ev caller frame p start .missing (.value .nil) start

namespace Eval

variable {limit fuel : Nat} {ev : Evaluator} {caller frame : FrameId} {p : Parameter Node}
  {bound : Bound} {found : Found} {before start after : World}

theorem parameterSlot_fills {filled : Slot × Bool} (hsuits : p.Suits bound)
    (h : parameterSlot ev caller frame p bound start = .ok filled after) :
    filled.2 = bound.isSupplied ∧
      ∃ found, filled.1.found? = some found ∧ Fills ev caller frame p start bound found after := by
  cases bound with
  | missing =>
      obtain ⟨v, middle, hdefault, hpure⟩ := bind_eq_ok_iff.mp h
      cases hpure
      refine ⟨rfl, .value v, rfl, ?_⟩
      cases hnode : p.default with
      | some node =>
          simp only [defaultValue, hnode] at hdefault
          exact .default hnode hdefault
      | none =>
          have hone : p.role ≠ .rest := hsuits.role_ne
          simp only [defaultValue, hnode, beq_eq_false_iff_ne.mpr hone] at hdefault
          cases hdefault
          exact .nothing hnode
  | single node =>
      cases hlazy : p.isLazy with
      | true =>
          simp only [parameterSlot, hlazy, if_true] at h
          cases h
          exact ⟨rfl, _, rfl, .deferred hlazy⟩
      | false =>
          simp only [parameterSlot, hlazy] at h
          obtain ⟨v, middle, hnode, hpure⟩ := bind_eq_ok_iff.mp h
          cases hpure
          exact ⟨rfl, _, rfl, .argument hlazy hnode⟩
  | rest nodes =>
      obtain ⟨vs, middle, hvalues, hpure⟩ := bind_eq_ok_iff.mp h
      cases hpure
      exact ⟨rfl, _, rfl, .rest hvalues⟩

theorem Fills.keeps (h : Fills (evaluator limit fuel) caller frame p start bound found after) :
    start.Keeps after := by
  cases h with
  | argument _ run => exact node_keeps_calls run
  | deferred => exact ⟨(World.KeepsCalls.refl start).elsewhere rfl, .push _ _ _⟩
  | rest run => exact values_keeps_calls run
  | default _ run => exact node_keeps_calls run
  | nothing => exact .refl start

end Eval

namespace CallSlots

structure FilledFrom (index : Nat) (call filled : CallSlots) : Prop where
  shape : filled.shape = call.shape
  slot {i : Nat} : i < index → filled.slots[i]? = call.slots[i]?
  supplied {i : Nat} : i < index → filled.supplied[i]? = call.supplied[i]?

theorem FilledFrom.refl (index : Nat) (call : CallSlots) : call.FilledFrom index call :=
  ⟨rfl, fun _ => rfl, fun _ => rfl⟩

theorem FilledFrom.of_fill {index : Nat} {call filled : CallSlots} {slot : Slot} {supplied : Bool}
    (h : (call.fill index slot supplied).FilledFrom (index + 1) filled) :
    call.FilledFrom index filled where
  shape := h.shape.trans (shape_fill call index slot supplied)
  slot := by
    intro i hi
    rw [h.slot (by omega)]
    simp [fill, Nat.ne_of_gt hi]
  supplied := by
    intro i hi
    rw [h.supplied (by omega)]
    simp [fill, Nat.ne_of_gt hi]

end CallSlots

namespace World

theorem call?_addCallFrame (world : World) (parent : FrameId) (spec : LambdaList Node) :
    (world.addCallFrame parent spec).2.call? (world.addCallFrame parent spec).1 =
      some (.unfilled spec) := by
  unfold addCallFrame
  rw [call?, frame?_addFrame, if_pos rfl]
  rfl

theorem call?_fillSlot {world : World} {id : FrameId} {call : CallSlots}
    (h : world.call? id = some call) (index : Nat) (slot : Slot) (supplied : Bool) :
    (world.modifyFrame id (·.fillSlot index slot supplied)).call? id =
      some (call.fill index slot supplied) := by
  obtain ⟨frame, hframe, hcall⟩ := Option.bind_eq_some_iff.mp h
  rw [call?, frame?_modifyFrame, if_pos rfl, hframe]
  simp [Frame.fillSlot, hcall]

theorem KeepsCalls.call?_eq {world after : World} {id : FrameId} {call : CallSlots}
    (h : world.KeepsCalls after) (hcall : world.call? id = some call) :
    after.call? id = some call := by
  obtain ⟨frame, hframe, -⟩ := Option.bind_eq_some_iff.mp hcall
  rw [h.call (Array.getElem?_eq_some_iff.mp hframe).1, hcall]

end World

namespace Eval

variable {limit fuel : Nat} {caller frame : FrameId} {before after : World} {index : Nat}
  {ps : List (Parameter Node)} {bounds : List Bound} {call : CallSlots}

private theorem fillSlots_filledFrom (hsuits : List.Forall₂ Parameter.Suits ps bounds)
    (hcall : before.call? frame = some call)
    (h : fillSlots (evaluator limit fuel) caller frame index ps bounds before = .ok () after) :
    Advances before.thunks after.thunks ∧
      ∃ filled, after.call? frame = some filled ∧ call.FilledFrom index filled := by
  induction hsuits generalizing index before call with
  | nil =>
      cases h
      exact ⟨.refl _, call, hcall, .refl index call⟩
  | cons hsuit _ ih =>
      rw [fillSlots_cons_eq] at h
      obtain ⟨⟨slot, supplied⟩, middle, hslot, hrest⟩ := bind_eq_ok_iff.mp h
      rw [run_modify_bind] at hrest
      obtain ⟨-, found, -, hfills⟩ := parameterSlot_fills hsuit hslot
      have hkeeps := hfills.keeps
      have hfilled := World.call?_fillSlot (hkeeps.calls.call?_eq hcall) index slot supplied
      obtain ⟨hthunks, filled, hlast, hfrom⟩ := ih hfilled hrest
      exact ⟨hkeeps.thunks.trans hthunks, filled, hlast, hfrom.of_fill⟩

private theorem fillSlots_append {ev : Evaluator} (index : Nat) {ps : List (Parameter Node)}
    {bounds : List Bound} (hlength : ps.length = bounds.length) (qs : List (Parameter Node))
    (others : List Bound) :
    fillSlots ev caller frame index (ps ++ qs) (bounds ++ others) =
      (fillSlots ev caller frame index ps bounds >>= fun _ =>
        fillSlots ev caller frame (index + ps.length) qs others) := by
  induction ps generalizing index bounds with
  | nil =>
      obtain rfl : bounds = [] := by simpa [eq_comm] using hlength
      simp [fillSlots]
  | cons p ps ih =>
      cases bounds with
      | nil => simp at hlength
      | cons bound bounds =>
          simp only [List.cons_append, fillSlots_cons_eq, bind_assoc, List.length_cons]
          rw [ih (index + 1) (by simpa using hlength), Nat.add_right_comm, Nat.add_assoc index]

theorem fillSlots_turn {ev : Evaluator} {p : Parameter Node} {bound : Bound}
    (hlength : ps.length = bounds.length) (hp : ps[index]? = some p)
    (hbound : bounds[index]? = some bound)
    (h : fillSlots ev caller frame 0 ps bounds before = .ok () after) :
    ∃ start filled middle,
      fillSlots ev caller frame 0 (ps.take index) (bounds.take index) before = .ok () start ∧
      parameterSlot ev caller frame p bound start = .ok filled middle ∧
      fillSlots ev caller frame (index + 1) (ps.drop (index + 1)) (bounds.drop (index + 1))
        (middle.modifyFrame frame (·.fillSlot index filled.1 filled.2)) = .ok () after := by
  have hlt : index < ps.length := (List.getElem?_eq_some_iff.mp hp).1
  have htake : (ps.take index).length = (bounds.take index).length := by simp [hlength]
  have hindex : 0 + (ps.take index).length = index := by
    rw [List.length_take]
    omega
  rw [← eq_take_cons_drop hp, ← eq_take_cons_drop hbound, fillSlots_append 0 htake, hindex,
    fillSlots_cons_eq] at h
  obtain ⟨_, start, hstart, hturn⟩ := bind_eq_ok_iff.mp h
  obtain ⟨filled, middle, hfilled, hrest⟩ := bind_eq_ok_iff.mp hturn
  exact ⟨start, filled, middle, hstart, hfilled, hrest⟩

theorem fillSlots_fills {p : Parameter Node} {bound : Bound}
    (hsuits : List.Forall₂ Parameter.Suits ps bounds) (hcall : before.call? frame = some call)
    (hslots : ps.length = call.slots.length) (hsupplied : ps.length = call.supplied.length)
    (hp : ps[index]? = some p) (hbound : bounds[index]? = some bound)
    (h : fillSlots (evaluator limit fuel) caller frame 0 ps bounds before = .ok () after) :
    ∃ start found middle filled slot,
      fillSlots (evaluator limit fuel) caller frame 0 (ps.take index) (bounds.take index) before =
        .ok () start ∧
      Fills (evaluator limit fuel) caller frame p start bound found middle ∧
      Advances middle.thunks after.thunks ∧
      after.call? frame = some filled ∧ filled.spec = call.spec ∧
      filled.slots[index]? = some slot ∧ slot.found? = some found ∧
      filled.supplied[index]? = some (some bound.isSupplied) := by
  obtain ⟨start, slot, middle, hstart, hslot, hrest⟩ := fillSlots_turn hsuits.length_eq hp hbound h
  obtain ⟨hlt, rfl⟩ := List.getElem?_eq_some_iff.mp hp
  obtain ⟨hlt', rfl⟩ := List.getElem?_eq_some_iff.mp hbound
  have hsuit : ps[index].Suits bounds[index] := hsuits.get hlt hlt'
  obtain ⟨hflag, found, hfound, hfills⟩ := parameterSlot_fills hsuit hslot
  -- what the parameters before it have left
  obtain ⟨-, early, hearly, hfrom⟩ :=
    fillSlots_filledFrom (List.forall₂_take index hsuits) hcall hstart
  have hnow := World.call?_fillSlot (hfills.keeps.calls.call?_eq hearly) index slot.1 slot.2
  -- what the parameters behind it have left
  obtain ⟨hthunks, filled, hlast, hkept⟩ :=
    fillSlots_filledFrom (List.forall₂_drop (index + 1) hsuits) hnow hrest
  have hshape := hfrom.shape
  simp only [CallSlots.shape, Prod.mk.injEq] at hshape
  refine ⟨start, found, middle, filled, slot.1, hstart, hfills, hthunks, hlast, ?_, ?_, hfound, ?_⟩
  · exact (congrArg Prod.fst hkept.shape).trans hshape.1
  · rw [hkept.slot (Nat.lt_succ_self index)]
    simp only [CallSlots.fill]
    rw [List.getElem?_set_self (by omega)]
  · rw [hkept.supplied (Nat.lt_succ_self index), hflag]
    simp only [CallSlots.fill]
    rw [List.getElem?_set_self (by omega)]

end Eval

/-! ## Reading -/

def Found.read (ev : Evaluator) : Found → Eval Value
  | value v => pure v
  | thunk id => Eval.force ev id

def World.assigned? (world : World) (id : FrameId) (name : String) : Option Value :=
  (world.frame? id).bind (·.locals.find? name)

namespace CallSlots

variable {call : CallSlots} {index : Nat} {p : Parameter Node}

theorem find?_name (h : call.spec.Indexed) (hp : call.spec.parameters[index]? = some p)
    {slot : Slot} (hslot : call.slots[index]? = some slot) {found : Found}
    (hfound : slot.found? = some found) :
    call.find? p.name = some found := by
  have hindex : call.spec.indexOf? p.name = some index := (h.name p.name index).mpr ⟨p, hp, rfl⟩
  simp [find?, slot?, hindex, hslot, hfound]

theorem find?_flag (h : call.spec.Indexed) (hp : call.spec.parameters[index]? = some p)
    {flag : String} (hflag : p.suppliedFlag = some flag) (hname : flag ∉ call.spec.names)
    {supplied : Bool} (hsupplied : call.supplied[index]? = some (some supplied)) :
    call.find? flag = some (.value (.bool supplied)) := by
  have hindex : call.spec.flagIndex? flag = some index := (h.flag flag index).mpr ⟨p, hp, hflag⟩
  have hnone : call.spec.indexOf? flag = none := h.indexOf?_eq_none_iff.mpr hname
  simp [find?, slot?, flag?, hindex, hnone, hsupplied]

end CallSlots

theorem World.find?_of_call {world : World} {id : FrameId} {call : CallSlots} {name : String}
    {found : Found} (hcall : world.call? id = some call)
    (hassigned : world.assigned? id name = none)
    (hfound : call.find? name = some found) : world.find? id name = some found := by
  obtain ⟨frame, hframe, hslots⟩ := Option.bind_eq_some_iff.mp hcall
  have hnone : frame.locals.find? name = none := by simpa [assigned?, hframe] using hassigned
  have hlocal : world.localFind? name id = some found := by
    simp [localFind?, hframe, Frame.find?, hnone, hslots, hfound]
  simp [find?, chain, chainWithin, hframe, hlocal]

namespace Eval

theorem callFrame_eq_ok_iff {ev : Evaluator} {caller defining frame : FrameId}
    {arguments : BoundArguments} {world after : World} :
    callFrame ev caller defining arguments world = .ok frame after ↔
      frame = (world.addCallFrame defining arguments.spec).1 ∧
        fillSlots ev caller frame 0 arguments.spec.parameters arguments.bound
          (world.addCallFrame defining arguments.spec).2 = .ok () after := by
  constructor
  · intro h
    obtain ⟨opened, middle, hopen, hrun⟩ := bind_eq_ok_iff.mp h
    cases hopen
    obtain ⟨_, last, hfill, hpure⟩ := bind_eq_ok_iff.mp hrun
    cases hpure
    exact ⟨rfl, hfill⟩
  · rintro ⟨rfl, hfill⟩
    exact bind_eq_ok_iff.mpr ⟨_, _, rfl, bind_eq_ok_iff.mpr ⟨_, _, hfill, rfl⟩⟩

theorem readVariable_eq {world : World} {scope : FrameId} {name : String} {found : Found}
    (h : world.find? scope name = some found) (reader : Evaluator) :
    readVariable reader scope name world = found.read reader world := by
  unfold readVariable
  simp only [run_get_bind, h]
  cases found with
  | value v => rfl
  | thunk id => rfl

private theorem lacks_after_fillSlots {limit fuel index : Nat} {caller frame : FrameId}
    {id : ThunkId}
    {node : Node} {scope : FrameId} {v : Value} {ps : List (Parameter Node)} {bounds : List Bound}
    {world after : World} (h : Lacks id node scope v world)
    (hfill : fillSlots (evaluatorUnless (refuseGiving limit fuel id node scope v) limit fuel)
      caller frame index ps bounds world = .ok () after) : Lacks id node scope v after := by
  have hkeeps : (Contract.lacking limit id node scope v).Outcome _ _ world
      (fillSlots _ caller frame index ps bounds world) :=
    (Contract.lacking_sound limit id node scope v).fillSlots_keeps
      (refuseGiving_evaluates limit fuel id node scope v world.trace) ⟨h, rfl⟩ trivial trivial
      (fun _ _ _ _ => trivial) (fun _ _ _ _ => trivial)
  rw [hfill] at hkeeps
  exact hkeeps.1.world

private theorem callFrame_lacks {limit fuel index : Nat} {caller defining frame : FrameId}
    {arguments : BoundArguments} {p : Parameter Node} {node : Node} {v : Value}
    {world start after : World}
    (hlength : arguments.spec.parameters.length = arguments.bound.length)
    (hp : arguments.spec.parameters[index]? = some p)
    (hbound : arguments.bound[index]? = some (.single node)) (hlazy : p.isLazy = true)
    (hstart : fillSlots (evaluator limit fuel) caller frame 0
      (arguments.spec.parameters.take index) (arguments.bound.take index)
        (world.addCallFrame defining arguments.spec).2 = .ok () start)
    (hframe : callFrame (evaluatorUnless
        (refuseGiving limit fuel ⟨start.thunks.size⟩ node caller v) limit fuel) caller defining
          arguments world = .ok frame after) :
    Lacks ⟨start.thunks.size⟩ node caller v after := by
  obtain ⟨rfl, hfill⟩ := callFrame_eq_ok_iff.mp hframe
  obtain ⟨begun, filled, middle, hbegun, hslot, hrest⟩ := fillSlots_turn hlength hp hbound hfill
  -- the parameters before it are filled as they are without refusals
  have hextends : Extends fun ev => fillSlots ev caller
      (world.addCallFrame defining arguments.spec).1 0 (arguments.spec.parameters.take index)
        (arguments.bound.take index) := fun _ _ _ h => fillSlots_refines h _ _ _ _ _
  obtain rfl : begun = start := by
    rcases hextends.unless_or
      (refuseGiving limit fuel ⟨start.thunks.size⟩ node caller v) hstart with
      hsame | ⟨_, _, now, -, hcut⟩
    · rw [hbegun] at hsame
      cases hsame
      rfl
    · rw [hbegun] at hcut
      cases hcut
  simp only [parameterSlot, hlazy, if_true] at hslot
  cases hslot
  have hpending : Lacks ⟨begun.thunks.size⟩ node caller v
      ((begun.addThunk node caller).2.modifyFrame (world.addCallFrame defining arguments.spec).1
        (·.fillSlot index (.deferred (begun.addThunk node caller).1) true)) :=
    ⟨.pending node caller, by simp [World.modifyFrame, World.addThunk], .inl rfl⟩
  exact lacks_after_fillSlots hpending hrest

/-- What a deferred argument is done with when the frame is built, its expression has given in the
caller's frame, in a world in which the building of the frame asked for it. -/
theorem callFrame_comesTo {limit fuel index : Nat} {caller defining frame : FrameId}
    {arguments : BoundArguments} {p : Parameter Node} {node : Node} {v : Value}
    {world start after : World}
    (hlength : arguments.spec.parameters.length = arguments.bound.length)
    (hp : arguments.spec.parameters[index]? = some p)
    (hbound : arguments.bound[index]? = some (.single node)) (hlazy : p.isLazy = true)
    (hstart : fillSlots (evaluator limit fuel) caller frame 0
      (arguments.spec.parameters.take index) (arguments.bound.take index)
        (world.addCallFrame defining arguments.spec).2 = .ok () start)
    (hframe : callFrame (evaluator limit fuel) caller defining arguments world = .ok frame after)
    (hdone : after.thunks[start.thunks.size]? = some (.done v)) :
    ∃ before last,
      ComesTo limit fuel (fun ev => callFrame ev caller defining arguments) world caller node
        before ∧
      before.thunks[start.thunks.size]? = some .forcing ∧
      (evaluator limit fuel).node caller node before = .ok v last := by
  have hextends : Extends fun ev => callFrame ev caller defining arguments :=
    fun _ _ _ h => callFrame_refines h caller defining arguments
  rcases hextends.unless_or (refuseGiving limit fuel ⟨start.thunks.size⟩ node caller v) hframe with
    hsame | ⟨inner, other, before, hrefused, hcut⟩
  · obtain ⟨thunk, hthunk, hstate⟩ := callFrame_lacks hlength hp hbound hlazy hstart hsame
    rw [hdone] at hthunk
    obtain rfl := Option.some.inj hthunk
    simp at hstate
  · obtain ⟨rfl, rfl, hmarked, last, hgives⟩ := refuseGiving_eq_true_iff.mp hrefused
    refine ⟨before, last, ⟨?_, _, ?_, hrefused, hcut⟩, hmarked, hgives⟩
    · intro now hexhausted
      rw [hframe] at hexhausted
      cases hexhausted
    · intro scope asked now h
      obtain ⟨hscope, hnode, -⟩ := refuseGiving_eq_true_iff.mp h
      exact ⟨hscope, hnode⟩

/-- Once the frame of a call is built, a name that no code has assigned in it reads as what the call
has put there. A parameter reads as the value that its expression had in the caller's frame when its
turn came, as its deferred argument, as the list of the rest, or as the value that its default had
in the unfinished frame. A deferred argument that is done by then has the value that its expression
gave in the caller's frame when the building of the frame asked for it. A supply record tells
whether the call site supplies the parameter. The lambda list knows the places of its names, as
every accepted one does. -/
theorem callFrame_parameters_read {limit fuel : Nat} {caller defining frame : FrameId}
    {spec : LambdaList Node} {nodes : List Node} {arguments : BoundArguments} {world after : World}
    (hspec : spec.Indexed) (hnames : (spec.names ++ spec.flags).Nodup)
    (hbind : bindArguments spec nodes = .ok arguments)
    (hframe : callFrame (evaluator limit fuel) caller defining arguments world = .ok frame after) :
    ∀ (index : Nat) (p : Parameter Node), spec.parameters[index]? = some p →
      ∃ bound start found filled, arguments.bound[index]? = some bound ∧
        fillSlots (evaluator limit fuel) caller frame 0 (spec.parameters.take index)
          (arguments.bound.take index) (world.addCallFrame defining spec).2 = .ok () start ∧
        Fills (evaluator limit fuel) caller frame p start bound found filled ∧
        (∀ node id, bound = .single node → found = .thunk id →
          after.thunks[id.index]? = some (.pending node caller) ∨
            ∃ v before last, after.thunks[id.index]? = some (.done v) ∧
              ComesTo limit fuel (fun ev => callFrame ev caller defining arguments) world caller
                node before ∧
              before.thunks[id.index]? = some .forcing ∧
              (evaluator limit fuel).node caller node before = .ok v last) ∧
        (after.assigned? frame p.name = none → ∀ reader,
          readVariable reader frame p.name after = found.read reader after) ∧
        ∀ flag, p.suppliedFlag = some flag → after.assigned? frame flag = none → ∀ reader,
          readVariable reader frame flag after = .ok (.bool bound.isSupplied) after := by
  have hsuits := suits_of_bindArguments hbind
  obtain ⟨keywords, -, -, rfl⟩ := bindArguments_eq_ok hbind
  obtain ⟨-, -, hdisjoint⟩ := List.nodup_append.mp hnames
  obtain ⟨rfl, hfill⟩ := callFrame_eq_ok_iff.mp hframe
  intro index p hp
  obtain ⟨bound, hbound⟩ : ∃ bound,
      (distribute spec.parameters (.cut spec nodes keywords))[index]? = some bound :=
    ⟨_, by rw [getElem?_distribute, hp, Option.map_some]⟩
  obtain ⟨start, found, middle, filled, slot, hstart, hfills, hthunks, hcall, hsame, hslot, hfound,
    hsupplied⟩ := fillSlots_fills hsuits (World.call?_addCallFrame world defining spec)
      (by simp [CallSlots.unfilled, LambdaList.size])
        (by simp [CallSlots.unfilled, LambdaList.size])
      hp hbound hfill
  have hindexed : filled.spec.Indexed := hsame ▸ hspec
  have hplace : filled.spec.parameters[index]? = some p := hsame ▸ hp
  refine ⟨bound, start, found, middle, hbound, hstart, hfills, ?_, ?_, ?_⟩
  · rintro node id rfl rfl
    cases hfills with
    | deferred isLazy =>
        have hpending : (start.addThunk node caller).2.thunks[start.thunks.size]? =
            some (.pending node caller) := by
          simp [World.addThunk]
        rcases hthunks.pending hpending with hkept | ⟨v, hdone⟩
        · exact .inl hkept
        · obtain ⟨before, last, hcomes, hmarked, hgives⟩ :=
            callFrame_comesTo hsuits.length_eq hp hbound isLazy hstart hframe hdone
          exact .inr ⟨v, before, last, hdone, hcomes, hmarked, hgives⟩
  · intro hassigned
    apply readVariable_eq
    exact World.find?_of_call hcall hassigned (CallSlots.find?_name hindexed hplace hslot hfound)
  · intro flag hflag hassigned
    have hname : flag ∉ filled.spec.names := by
      rw [hsame]
      intro hmem
      exact hdisjoint flag hmem flag
        (List.mem_filterMap.mpr ⟨p, List.mem_of_getElem? hp, hflag⟩) rfl
    have hfind := World.find?_of_call hcall hassigned
      (CallSlots.find?_flag hindexed hplace hflag hname hsupplied)
    intro reader
    exact readVariable_eq hfind reader

/-- A default that reads a lazy parameter before it, and so forces its argument. -/
theorem callFrame_parameters_read_forced :
    let seven : Node := .ofValue (.int 7) none
    let readX : Node := ⟨.readVariable "X", "X", some .start⟩
    let spec : LambdaList Node := .ofList [⟨"X", .mandatory, none, none, false, true, false⟩,
      ⟨"Y", .optional, some readX, some "GIVEN", false, false, false⟩]
    let world := World.initial .raise
    bindArguments spec [seven] = .ok ⟨spec, [.single seven, .missing]⟩ ∧
    ∃ frame after,
      callFrame (evaluator 9 9) World.root World.root ⟨spec, [.single seven, .missing]⟩ world =
        .ok frame after ∧
      ∀ reader, readVariable reader frame "Y" after = .ok (.int 7) after ∧
        readVariable reader frame "GIVEN" after = .ok (.bool false) after := by
  intro seven readX spec world
  have hbind : bindArguments spec [seven] = .ok ⟨spec, [.single seven, .missing]⟩ := by
    subst seven readX spec
    rfl
  have hbuilt : ∃ frame after, callFrame (evaluator 9 9) World.root World.root
      ⟨spec, [.single seven, .missing]⟩ world = .ok frame after ∧
        after.assigned? frame "Y" = none ∧ after.assigned? frame "GIVEN" = none :=
    ⟨_, _, rfl, rfl, rfl⟩
  obtain ⟨frame, after, hframe, hassigned, hassigned'⟩ := hbuilt
  obtain ⟨bound, start, found, filled, hbound, hstart, hfills, -, hread, hflag⟩ :=
    callFrame_parameters_read (LambdaList.indexed_ofList (by decide) (by decide)) (by decide) hbind
      hframe 1 _ rfl
  obtain ⟨hnew, -⟩ := callFrame_eq_ok_iff.mp hframe
  subst hnew
  cases hbound
  cases hstart
  cases hfills with
  | nothing noDefault => cases noDefault
  | default hasDefault run =>
      cases hasDefault
      cases run
      refine ⟨hbind, _, after, hframe, ?_⟩
      intro reader
      exact ⟨hread hassigned reader, hflag "GIVEN" rfl hassigned' reader⟩

/-- In `((LAMBDA (A &OPTIONAL (B (SETV A 5))) A) 1)` the default of `B` assigns to `A`, which then
reads as 5. -/
theorem default_assigns_parameter :
    let one : Node := .ofValue (.int 1) none
    let assign : Node :=
      ⟨.ofForm (.assign .nearest [("A", .ofValue (.int 5) none)]), "SETV", some .start⟩
    let spec : LambdaList Node := .ofList [⟨"A", .mandatory, none, none, false, false, false⟩,
      ⟨"B", .optional, some assign, none, false, false, false⟩]
    let world := World.initial .raise
    let ev := evaluator 9 9
    (spec.names ++ spec.flags).Nodup ∧
    bindArguments spec [one] = .ok ⟨spec, [.single one, .missing]⟩ ∧
    EStateM.run' (ev.node World.root one) (world.addCallFrame World.root spec).2 = some (.int 1) ∧
    EStateM.run' (do
      let frame ← callFrame ev World.root World.root ⟨spec, [.single one, .missing]⟩
      readVariable ev frame "A") world = some (.int 5) := by
  intro one assign spec world ev
  have hbind : bindArguments spec [one] = .ok ⟨spec, [.single one, .missing]⟩ := by
    subst one assign spec
    rfl
  have hread : (EStateM.run' (callFrame ev World.root World.root ⟨spec, [.single one, .missing]⟩ >>=
      fun frame => readVariable ev frame "A") world).map (fun v => endingInt? (.ok v)) =
        some (some (false, 5)) := by
    decide +kernel
  obtain ⟨v, hv, hint⟩ := Option.map_eq_some_iff.mp hread
  cases eq_of_endingInt? hint
  exact ⟨by decide, hbind, rfl, hv⟩

end Eval

end LispEngine
