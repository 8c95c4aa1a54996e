import LispEngine.Proofs.Frames
import LispEngine.Proofs.LambdaLists

/-!
# How frames are nested

A frame keeps the frame around it, its policy for missing variables and the shape of its slots from
when it is made. The frame around it is older, so the walk outwards from a frame ends at a root, and
the policy is that of the root.
-/

namespace LispEngine

/-! ## The shape of a frame -/

namespace CallSlots

def shape (call : CallSlots) : LambdaList Node × Nat × Nat :=
  (call.spec, call.slots.length, call.supplied.length)

/-- There is one slot and one supply record for each parameter of an accepted lambda list. -/
structure Fits (call : CallSlots) : Prop where
  slots : call.slots.length = call.spec.size
  supplied : call.supplied.length = call.spec.size
  accepted : call.spec.Accepted

theorem Fits.of_shape {call later : CallSlots} (h : call.Fits) (hshape : later.shape = call.shape) :
    later.Fits := by
  simp only [shape, Prod.mk.injEq] at hshape
  obtain ⟨hspec, hslots, hsupplied⟩ := hshape
  exact ⟨by rw [hslots, hspec, h.slots], by rw [hsupplied, hspec, h.supplied],
    by rw [hspec]; exact h.accepted⟩

theorem fits_unfilled {spec : LambdaList Node} (h : spec.Accepted) : (unfilled spec).Fits :=
  ⟨List.length_replicate, List.length_replicate, h⟩

theorem shape_fill (call : CallSlots) (index : Nat) (slot : Slot) (supplied : Bool) :
    (call.fill index slot supplied).shape = call.shape := by
  simp [shape, fill]

private theorem length_blankAt {α : Type} (blank : α) (inUse : α → Bool) (items : List α)
    (place : Option Nat) : (blankAt blank inUse items place).2.length = items.length := by
  cases place <;> simp [blankAt]

theorem shape_remove (call : CallSlots) (name : String) :
    (call.remove name).2.shape = call.shape := by
  simp only [shape, remove, Prod.mk.injEq, true_and]
  exact ⟨length_blankAt .unset Slot.isSet _ _, length_blankAt none Option.isSome _ _⟩

end CallSlots

structure Frame.SameShape (frame later : Frame) : Prop where
  parent : later.parent = frame.parent
  missing : later.missing = frame.missing
  call : later.call.map CallSlots.shape = frame.call.map CallSlots.shape

namespace Frame

variable (frame : Frame)

theorem SameShape.refl : frame.SameShape frame := ⟨rfl, rfl, rfl⟩

variable {frame} in
theorem SameShape.trans {later last : Frame} (h : frame.SameShape later)
    (h' : later.SameShape last) : frame.SameShape last :=
  ⟨h'.parent.trans h.parent, h'.missing.trans h.missing, h'.call.trans h.call⟩

theorem sameShape_set (name : String) (v : Value) : frame.SameShape (frame.set name v) :=
  ⟨rfl, rfl, rfl⟩

theorem sameShape_setProperty (name key : String) (v : Value) :
    frame.SameShape (frame.setProperty name key v) :=
  ⟨rfl, rfl, rfl⟩

theorem sameShape_fillSlot (index : Nat) (slot : Slot) (supplied : Bool) :
    frame.SameShape (frame.fillSlot index slot supplied) := by
  refine ⟨rfl, rfl, ?_⟩
  simp only [fillSlot, Option.map_map]
  exact congrArg (Option.map · frame.call) (funext fun call => call.shape_fill index slot supplied)

theorem sameShape_remove (name : String) : frame.SameShape (frame.remove name).2 := by
  refine ⟨rfl, rfl, ?_⟩
  simp only [remove, Option.map_map]
  exact congrArg (Option.map · frame.call) (funext fun call => call.shape_remove name)

end Frame

/-! ## Nested frames -/

namespace World

def HasFrame (world : World) (id : FrameId) : Prop := ∃ frame, world.frame? id = some frame

def Extends (world after : World) : Prop :=
  ∀ id frame, world.frame? id = some frame →
    ∃ later, after.frame? id = some later ∧ frame.SameShape later

/-- The frame around a frame is older and has the same policy, and the slots of the frame fit. -/
structure Places (world : World) (id : FrameId) (frame : Frame) : Prop where
  parent : ∀ parent, frame.parent = some parent → parent.index < id.index ∧
    ∃ around, world.frame? parent = some around ∧ around.missing = frame.missing
  call : ∀ call, frame.call = some call → call.Fits

def Nested (world : World) : Prop :=
  ∀ id frame, world.frame? id = some frame → world.Places id frame

variable {world after last : World} {id : FrameId} {frame : Frame}

theorem Extends.refl (world : World) : world.Extends world :=
  fun _ frame hframe => ⟨frame, hframe, .refl frame⟩

theorem Extends.trans (h : world.Extends after) (h' : after.Extends last) : world.Extends last := by
  intro id frame hframe
  obtain ⟨later, hlater, hsame⟩ := h id frame hframe
  obtain ⟨latest, hlatest, hsame'⟩ := h' id later hlater
  exact ⟨latest, hlatest, hsame.trans hsame'⟩

theorem extends_of_frames (h : after.frames = world.frames) : world.Extends after := by
  intro id frame hframe
  refine ⟨frame, ?_, .refl frame⟩
  rwa [frame?, h]

theorem HasFrame.mono (h : world.HasFrame id) (hextends : world.Extends after) :
    after.HasFrame id := by
  obtain ⟨frame, hframe⟩ := h
  obtain ⟨later, hlater, -⟩ := hextends id frame hframe
  exact ⟨later, hlater⟩

theorem HasFrame.lt_size (h : world.HasFrame id) : id.index < world.frames.size := by
  obtain ⟨frame, hframe⟩ := h
  exact (Array.getElem?_eq_some_iff.mp hframe).1

theorem Places.mono (h : world.Places id frame) (hextends : world.Extends after) :
    after.Places id frame := by
  refine ⟨?_, h.call⟩
  intro parent hparent
  obtain ⟨hlt, around, haround, hmissing⟩ := h.parent parent hparent
  obtain ⟨later, hlater, hsame⟩ := hextends parent around haround
  exact ⟨hlt, later, hlater, hsame.missing.trans hmissing⟩

theorem Places.sameShape {later : Frame} (h : world.Places id frame)
    (hsame : frame.SameShape later) : world.Places id later := by
  refine ⟨?_, ?_⟩
  · rw [hsame.parent, hsame.missing]
    exact h.parent
  · intro call hcall
    have hshape := hsame.call
    rw [hcall] at hshape
    obtain ⟨old, hold, heq⟩ := Option.map_eq_some_iff.mp hshape.symm
    exact (h.call old hold).of_shape heq.symm

theorem extends_addFrame (world : World) (frame : Frame) :
    world.Extends (world.addFrame frame).2 := by
  intro id old hold
  refine ⟨old, ?_, .refl old⟩
  rw [frame?_addFrame_of_lt (Array.getElem?_eq_some_iff.mp hold).1, hold]

theorem extends_modifyFrame (world : World) (id : FrameId) {change : Frame → Frame}
    (hchange : ∀ frame : Frame, frame.SameShape (change frame)) :
    world.Extends (world.modifyFrame id change) := by
  intro other found hfound
  rw [frame?_modifyFrame, hfound]
  split
  · exact ⟨change found, rfl, hchange found⟩
  · exact ⟨found, rfl, .refl found⟩

theorem hasFrame_addFrame (world : World) (frame : Frame) :
    (world.addFrame frame).2.HasFrame (world.addFrame frame).1 :=
  ⟨frame, by rw [frame?_addFrame, if_pos rfl]⟩

theorem places_new {parent : FrameId} (h : world.HasFrame parent)
    (hparent : frame.parent = some parent) (hmissing : frame.missing = world.missingPolicy parent)
    (hcall : ∀ call, frame.call = some call → call.Fits) :
    world.Places (world.addFrame frame).1 frame := by
  refine ⟨?_, hcall⟩
  intro other hother
  obtain rfl : parent = other := Option.some.inj (hparent.symm.trans hother)
  have hlt := h.lt_size
  obtain ⟨around, haround⟩ := h
  refine ⟨hlt, around, haround, ?_⟩
  rw [hmissing, missingPolicy, haround]

/-- The walk outwards from a frame goes through the frame around each frame and ends at a root. -/
inductive Outward (world : World) : FrameId → List FrameId → Prop where
  | root {id : FrameId} {frame : Frame} (found : world.frame? id = some frame)
      (isRoot : frame.parent = none) : Outward world id [id]
  | step {id parent : FrameId} {path : List FrameId} {frame : Frame}
      (found : world.frame? id = some frame) (inside : frame.parent = some parent)
      (further : Outward world parent path) : Outward world id (id :: path)

/-- The frame around a frame is older. -/
def Descending (world : World) : Prop :=
  ∀ id frame parent, world.frame? id = some frame → frame.parent = some parent →
    parent.index < id.index

/-- The frame around a frame is there. -/
def Enclosed (world : World) : Prop :=
  ∀ id frame parent, world.frame? id = some frame → frame.parent = some parent →
    world.HasFrame parent

theorem Descending.chainWithin_eq (h : world.Descending) {steps more : Nat} {id : FrameId}
    (hsteps : id.index < steps) (hmore : steps ≤ more) :
    world.chainWithin more id = world.chainWithin steps id := by
  induction steps generalizing id more with
  | zero => omega
  | succ steps ih =>
      obtain ⟨more, rfl⟩ : ∃ fewer, more = fewer + 1 := ⟨more - 1, by omega⟩
      cases hframe : world.frame? id with
      | none => simp [chainWithin, hframe]
      | some frame =>
          cases hparent : frame.parent with
          | none => simp [chainWithin, hframe, hparent]
          | some parent =>
              have hlt := h id frame parent hframe hparent
              have hrest : world.chainWithin more parent = world.chainWithin steps parent :=
                ih (by omega) (by omega)
              simp [chainWithin, hframe, hparent, hrest]

namespace Nested

variable (h : world.Nested)

include h

theorem of_frames (hframes : after.frames = world.frames) : after.Nested := by
  intro id frame hframe
  rw [frame?, hframes] at hframe
  exact (h id frame hframe).mono (extends_of_frames hframes)

theorem addFrame (hframe : world.Places (world.addFrame frame).1 frame) :
    (world.addFrame frame).2.Nested := by
  have hextends := world.extends_addFrame frame
  intro id found hfound
  rw [frame?_addFrame] at hfound
  split at hfound
  · rename_i heq
    obtain rfl := Option.some.inj hfound
    rw [heq]
    exact hframe.mono hextends
  · exact (h id found hfound).mono hextends

theorem modifyFrame (id : FrameId) {change : Frame → Frame}
    (hchange : ∀ frame : Frame, frame.SameShape (change frame)) :
    (world.modifyFrame id change).Nested := by
  have hextends := world.extends_modifyFrame id hchange
  intro other found hfound
  rw [frame?_modifyFrame] at hfound
  split at hfound
  · obtain ⟨old, hold, rfl⟩ := Option.map_eq_some_iff.mp hfound
    exact ((h other old hold).mono hextends).sameShape (hchange old)
  · exact (h other found hfound).mono hextends

theorem remove (id : FrameId) (name : String) :
    (world.remove id name).2.Nested ∧ world.Extends (world.remove id name).2 := by
  rw [World.remove_snd]
  generalize world.chain id = frames
  induction frames generalizing world with
  | nil => exact ⟨h, .refl world⟩
  | cons frame frames ih =>
      have hremove := fun found : Frame => found.sameShape_remove name
      obtain ⟨hlast, hlater⟩ := ih (h.modifyFrame frame hremove)
      exact ⟨hlast, (world.extends_modifyFrame frame hremove).trans hlater⟩

/-! ## Walks outwards -/

theorem descending : world.Descending :=
  fun id frame parent hframe hparent => ((h id frame hframe).parent parent hparent).1

theorem enclosed : world.Enclosed := by
  intro id frame parent hframe hparent
  obtain ⟨-, around, haround, -⟩ := (h id frame hframe).parent parent hparent
  exact ⟨around, haround⟩

omit h in
theorem chain_root {id : FrameId} {frame : Frame} (hframe : world.frame? id = some frame)
    (hroot : frame.parent = none) : world.chain id = [id] := by
  simp [chain, chainWithin, hframe, hroot]

theorem chain_parent {id parent : FrameId} {frame : Frame} (hframe : world.frame? id = some frame)
    (hparent : frame.parent = some parent) : world.chain id = id :: world.chain parent := by
  have hlt := h.descending id frame parent hframe hparent
  have hrest : world.chainWithin id.index parent = world.chain parent :=
    h.descending.chainWithin_eq (Nat.lt_succ_self _) hlt
  simp [chain, chainWithin, hframe, hparent, hrest]

theorem outward {id : FrameId} {frame : Frame} (hframe : world.frame? id = some frame) :
    world.Outward id (world.chain id) := by
  -- along the numbers of the frames, since the frame around a frame has a smaller one
  induction hindex : id.index using Nat.strongRecOn generalizing id frame with
  | ind index ih =>
      cases hparent : frame.parent with
      | none =>
          rw [chain_root hframe hparent]
          exact .root hframe hparent
      | some parent =>
          have hlt := h.descending id frame parent hframe hparent
          obtain ⟨around, haround⟩ := h.enclosed id frame parent hframe hparent
          rw [h.chain_parent hframe hparent]
          exact .step hframe hparent (ih parent.index (by omega) haround rfl)

theorem outward_ends {id : FrameId} {path : List FrameId} (hpath : world.Outward id path)
    {frame : Frame} (hframe : world.frame? id = some frame) :
    ∃ root top, path.getLast? = some root ∧ world.frame? root = some top ∧ top.parent = none ∧
      top.missing = frame.missing := by
  induction hpath generalizing frame with
  | @root id found hfound hroot =>
      obtain rfl := Option.some.inj (hfound.symm.trans hframe)
      exact ⟨id, found, rfl, hframe, hroot, rfl⟩
  | @step id parent path found hfound hparent _ ih =>
      obtain rfl := Option.some.inj (hfound.symm.trans hframe)
      obtain ⟨-, around, haround, hmissing⟩ := (h id found hframe).parent parent hparent
      obtain ⟨root, top, hlast, htop, hroot, hpolicy⟩ := ih haround
      refine ⟨root, top, ?_, htop, hroot, hpolicy.trans hmissing⟩
      simp [List.getLast?_cons, hlast]

end Nested

end World

end LispEngine
