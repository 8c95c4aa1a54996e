import LispEngine.World.Scope

/-!
# Frames of a world

A frame binds a name exactly when the name stands for something there. Which frames a world has
after a frame is added or changed.
-/

namespace LispEngine

theorem CallSlots.binds_eq (call : CallSlots) (name : String) :
    call.binds name = (call.find? name).isSome := by
  have hslot : ((call.spec.indexOf? name).bind (call.slots[·]?)).any Slot.isSet =
      (call.slot? name).isSome := by
    unfold slot?
    cases (call.spec.indexOf? name).bind (call.slots[·]?) with
    | none => rfl
    | some slot => cases slot <;> rfl
  have hflag : ((call.spec.flagIndex? name).bind (call.supplied[·]?)).any Option.isSome =
      (call.flag? name).isSome := by
    unfold flag?
    cases (call.spec.flagIndex? name).bind (call.supplied[·]?) with
    | none => rfl
    | some supplied => cases supplied <;> rfl
  rw [binds, find?, Option.isSome_or, hslot, hflag]

theorem Frame.binds_eq (frame : Frame) (name : String) :
    frame.binds name = (frame.find? name).isSome := by
  unfold binds find? Bindings.has
  cases frame.locals.find? name with
  | some v => rfl
  | none =>
      cases frame.call with
      | none => rfl
      | some call => exact call.binds_eq name

namespace World

theorem bindsLocally_eq (world : World) (name : String) (id : FrameId) :
    world.bindsLocally name id = (world.localFind? name id).isSome := by
  unfold bindsLocally localFind?
  cases world.frame? id with
  | none => rfl
  | some frame => exact frame.binds_eq name

theorem frame?_addFrame (world : World) (frame : Frame) (id : FrameId) :
    (world.addFrame frame).2.frame? id =
      if id = (world.addFrame frame).1 then some frame else world.frame? id := by
  cases id with
  | mk index =>
      simp only [frame?, addFrame, FrameId.mk.injEq]
      rw [Array.getElem?_push]

theorem frame?_addFrame_of_lt {world : World} {id : FrameId} (h : id.index < world.frames.size)
    (frame : Frame) : (world.addFrame frame).2.frame? id = world.frame? id := by
  have hold : id ≠ (world.addFrame frame).1 := by
    rintro rfl
    exact absurd h (Nat.lt_irrefl _)
  rw [frame?_addFrame, if_neg hold]

theorem frame?_modifyFrame (world : World) (changed : FrameId) (change : Frame → Frame)
    (id : FrameId) :
    (world.modifyFrame changed change).frame? id =
      if id = changed then (world.frame? id).map change else world.frame? id := by
  cases id with
  | mk index =>
      cases changed with
      | mk place =>
          simp only [frame?, modifyFrame, FrameId.mk.injEq, Array.getElem?_modify, eq_comm]

theorem remove_snd (world : World) (id : FrameId) (name : String) :
    (world.remove id name).2 = (world.chain id).foldl
      (fun world frame => world.modifyFrame frame fun found => (found.remove name).2) world := by
  have hfold (frames : List FrameId) (removed : Bool × World) :
      (frames.foldl (removeNext name) removed).2 = frames.foldl
        (fun world frame => world.modifyFrame frame fun found =>
          (found.remove name).2) removed.2 := by
    induction frames generalizing removed with
    | nil => rfl
    | cons frame frames ih => exact ih _
  exact hfold _ (false, world)

theorem modifyFrame_addFrame (world : World) (frame : Frame) (change : Frame → Frame) :
    (world.addFrame frame).2.modifyFrame (world.addFrame frame).1 change =
      (world.addFrame (change frame)).2 := by
  simp only [modifyFrame, addFrame]
  congr 1
  apply Array.ext
  · simp
  · intro index hmodified hadded
    rw [Array.getElem_modify, Array.getElem_push, Array.getElem_push]
    by_cases hold : index < world.frames.size
    · simp [hold, Nat.ne_of_gt hold]
    · have hlast : world.frames.size = index := by
        simp only [Array.size_push] at hadded
        omega
      simp [hlast]

end World

end LispEngine
