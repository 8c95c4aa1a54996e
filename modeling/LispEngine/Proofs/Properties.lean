import LispEngine.Proofs.Assignments

/-!
# Properties of names

The properties of a name are kept in one frame, the nearest that binds the name or was given
properties for it before. A property set on a name that no frame of the walk keeps makes the frame
itself their owner, also for the frames inside it. Such an owner starts with nothing but the new
property, so that no other read can tell that it is there.
-/

namespace LispEngine

/-! ## Frames -/

namespace Frame

variable (frame : Frame) (name key other : String) (v : Value)

theorem ownsProperties_setProperty : (frame.setProperty name key v).ownsProperties other =
    (frame.ownsProperties other || decide (other = name)) := by
  have hbinds : (frame.setProperty name key v).binds other = frame.binds other := rfl
  rw [ownsProperties, ownsProperties, hbinds, Bool.or_assoc]
  congr 1
  rw [setProperty, Bindings.has, Bindings.has, Bindings.find?_insert]
  by_cases hname : other = name <;> simp [hname]

theorem propertiesOf_setProperty : (frame.setProperty name key v).propertiesOf other =
    if other = name then (frame.propertiesOf name).insert key v else frame.propertiesOf other := by
  rw [propertiesOf, setProperty, Bindings.find?_insert]
  by_cases hname : other = name
  · rw [if_pos hname, if_pos hname, Option.getD_some]
  · rw [if_neg hname, if_neg hname, propertiesOf]

variable {frame name}

theorem propertiesOf_of_not_owns (h : frame.ownsProperties name = false) :
    frame.propertiesOf name = [] := by
  obtain ⟨-, hnone⟩ := Bool.or_eq_false_iff.mp h
  rw [propertiesOf, Option.not_isSome_iff_eq_none.mp (Bool.eq_false_iff.mp hnone), Option.getD_none]

theorem ownsProperties_iff (hcall : ∀ call, frame.call = some call → call.Fits) :
    frame.ownsProperties name = true ↔
      frame.Binds name ∨ ∃ held, frame.properties.find? name = some held := by
  rw [ownsProperties, Bool.or_eq_true, binds_iff hcall, Bindings.has, Option.isSome_iff_exists]

end Frame

/-! ## Owners -/

namespace World

/-- A frame keeps the properties of a name that it binds, or that it was given properties for. -/
def KeepsProperties (world : World) (id : FrameId) (name : String) : Prop :=
  ∃ frame, world.frame? id = some frame ∧
    (frame.Binds name ∨ ∃ held, frame.properties.find? name = some held)

/-- The owner of the properties of a name is the nearest frame of the walk outwards that keeps them.
-/
def Owner (world : World) (id : FrameId) (name : String) (owner : FrameId) : Prop :=
  ∃ near far, world.Outward id (near ++ owner :: far) ∧ world.KeepsProperties owner name ∧
    ∀ other ∈ near, ¬world.KeepsProperties other name

/-- The frame that a property is set in: the owner, which is the frame itself where there was none.
-/
def PropertyTarget (world : World) (id : FrameId) (name : String) (target : FrameId) : Prop :=
  world.Owner id name target ∨ target = id ∧ ∀ owner, ¬world.Owner id name owner

def ownsProperties (world : World) (name : String) (id : FrameId) : Bool :=
  (world.frame? id).any (·.ownsProperties name)

variable {world : World}

namespace Nested

variable (h : world.Nested)

include h

theorem ownsProperties_iff (id : FrameId) (name : String) :
    world.ownsProperties name id = true ↔ world.KeepsProperties id name := by
  unfold ownsProperties KeepsProperties
  cases hframe : world.frame? id with
  | none => simp
  | some frame =>
      have howns : frame.ownsProperties name = true ↔
          frame.Binds name ∨ ∃ held, frame.properties.find? name = some held :=
        Frame.ownsProperties_iff (h id frame hframe).call
      simp [howns]

theorem owner_iff (id : FrameId) (name : String) (owner : FrameId) :
    world.propertyOwner? id name = some owner ↔ world.Owner id name owner := by
  have hnot (other : FrameId) : (!world.ownsProperties name other) = true ↔
      ¬world.KeepsProperties other name := by
    rw [← h.ownsProperties_iff, Bool.not_eq_true, Bool.not_eq_true']
  constructor
  · intro hfound
    obtain ⟨howns, near, far, hsplit, hnear⟩ := List.find?_eq_some_iff_append.mp hfound
    obtain ⟨frame, hframe⟩ : world.HasFrame id :=
      hasFrame_of_mem_chain (show owner ∈ world.chain id by simp [hsplit])
    refine ⟨near, far, hsplit ▸ h.outward hframe, (h.ownsProperties_iff _ _).mp howns, ?_⟩
    intro other hother
    exact (hnot other).mp (hnear other hother)
  · rintro ⟨near, far, hwalk, hkeeps, hnear⟩
    rw [propertyOwner?, ← h.eq_chain hwalk, List.find?_eq_some_iff_append]
    refine ⟨(h.ownsProperties_iff _ _).mpr hkeeps, near, far, rfl, ?_⟩
    intro other hother
    exact (hnot other).mpr (hnear other hother)

theorem propertyTarget_iff (id : FrameId) (name : String) (target : FrameId) :
    world.PropertyTarget id name target ↔ (world.propertyOwner? id name).getD id = target := by
  unfold PropertyTarget
  simp only [← h.owner_iff]
  cases world.propertyOwner? id name with
  | none => simp [eq_comm]
  | some owner => simp

end Nested

/-! ## What is read afterwards -/

theorem Nested.setProperty (h : world.Nested) (id : FrameId) (name key : String) (v : Value) :
    (world.setProperty id name key v).Nested :=
  h.modifyFrame _ fun frame => frame.sameShape_setProperty name key v

theorem chain_setProperty (id : FrameId) (name key : String) (v : Value) (start : FrameId) :
    (world.setProperty id name key v).chain start = world.chain start :=
  chainWithin_modifyFrame _ (fun frame => (frame.sameShape_setProperty name key v).parent) _ start

def localProperties (world : World) (name : String) (id : FrameId) : Bindings Value :=
  ((world.frame? id).map (·.propertiesOf name)).getD []

theorem localProperties_of_not_owns {name : String} {id : FrameId}
    (h : world.ownsProperties name id = false) : world.localProperties name id = [] := by
  unfold localProperties
  cases hframe : world.frame? id with
  | none => rfl
  | some frame => exact Frame.propertiesOf_of_not_owns (by simpa [ownsProperties, hframe] using h)

theorem properties_eq (world : World) (id : FrameId) (name : String) :
    world.properties id name = (world.propertyOwner? id name).elim []
      (world.localProperties name) := by
  unfold properties localProperties
  cases world.propertyOwner? id name with
  | none => rfl
  | some owner => cases hframe : world.frame? owner <;> simp [hframe]

section Reading

variable {id target : FrameId} {name : String}

theorem frame?_setProperty (htarget : (world.propertyOwner? id name).getD id = target)
    (key : String) (v : Value) (reader : FrameId) :
    (world.setProperty id name key v).frame? reader =
      if reader = target then (world.frame? reader).map (·.setProperty name key v)
      else world.frame? reader := by
  rw [setProperty, htarget, frame?_modifyFrame]

private theorem hasFrame_of_propertyOwner? {owner : FrameId}
    (howner : world.propertyOwner? id name = some owner) :
    world.HasFrame owner := by
  have howns : world.ownsProperties name owner = true := List.find?_some howner
  cases hframe : world.frame? owner with
  | none => simp [ownsProperties, hframe] at howns
  | some frame => exact ⟨frame, hframe⟩

variable (htarget : (world.propertyOwner? id name).getD id = target) (hid : world.HasFrame id)

include htarget hid

theorem hasFrame_target : world.HasFrame target := by
  cases howner : world.propertyOwner? id name with
  | none =>
      rw [howner] at htarget
      exact htarget ▸ hid
  | some owner =>
      rw [howner] at htarget
      exact htarget ▸ hasFrame_of_propertyOwner? howner

theorem ownsProperties_setProperty (key : String) (v : Value) (other : String) (reader : FrameId) :
    (world.setProperty id name key v).ownsProperties other reader =
      (world.ownsProperties other reader || decide (other = name ∧ reader = target)) := by
  obtain ⟨frame, hframe⟩ := hasFrame_target htarget hid
  rw [ownsProperties, ownsProperties, frame?_setProperty htarget]
  by_cases hreader : reader = target
  · subst hreader
    simp [hframe, Frame.ownsProperties_setProperty]
  · simp [hreader]

variable (h : world.Nested)

include h

omit hid in
private theorem Nested.find?_behind_target (hfree : world.ownsProperties name target = false)
    {far : List FrameId} (hwalk : world.Outward target (target :: far)) :
    far.find? (world.ownsProperties name) = none := by
  cases howner : world.propertyOwner? id name with
  | some owner =>
      obtain rfl : owner = target := by rwa [howner] at htarget
      have howns : world.ownsProperties name owner = true := List.find?_some howner
      rw [hfree] at howns
      cases howns
  | none =>
      obtain rfl : id = target := by rwa [howner] at htarget
      rw [propertyOwner?, ← h.eq_chain hwalk, List.find?_eq_none] at howner
      exact List.find?_eq_none.mpr (List.forall_mem_cons.mp howner).2

omit hid in
private theorem Nested.find?_with_target {reader : FrameId} {path : List FrameId}
    (hwalk : world.Outward reader path) (other : String) :
    path.find? (fun frame =>
        world.ownsProperties other frame || decide (other = name ∧ frame = target)) =
      (path.find? (world.ownsProperties other)).or
        (if other = name ∧ target ∈ path then some target else none) := by
  induction hwalk with
  | @root start _ _ _ =>
      cases howns : world.ownsProperties other start with
      | true => simp [howns]
      | false =>
          simp only [List.find?_cons, howns, Bool.false_or, List.find?_nil, List.mem_singleton,
            Option.none_or]
          grind
  | @step start parent path frame hfound hparent hfurther ih =>
      have hwalk := Outward.step hfound hparent hfurther
      cases howns : world.ownsProperties other start with
      | true => simp [howns]
      | false =>
          by_cases hstart : other = name ∧ start = target
          · -- the search now ends here, and before it found nothing further out
            obtain ⟨rfl, rfl⟩ := hstart
            have hnone := h.find?_behind_target htarget howns hwalk
            simp [howns, hnone]
          · have hmem : (other = name ∧ target ∈ start :: path) ↔
              (other = name ∧ target ∈ path) := by
              grind
            simpa only [List.find?_cons, howns, hstart, hmem, decide_false, Bool.false_or] using ih

theorem Nested.propertyOwner?_setProperty (key : String) (v : Value) (reader : FrameId)
    (other : String) :
    (world.setProperty id name key v).propertyOwner? reader other =
      (world.propertyOwner? reader other).or
        (if other = name ∧ target ∈ world.chain reader then some target else none) := by
  have howns : (world.setProperty id name key v).ownsProperties other =
      fun frame => world.ownsProperties other frame || decide (other = name ∧ frame = target) :=
    funext (ownsProperties_setProperty htarget hid key v other)
  change ((world.setProperty id name key v).chain reader).find?
      ((world.setProperty id name key v).ownsProperties other) =
    ((world.chain reader).find? (world.ownsProperties other)).or _
  rw [chain_setProperty, howns]
  cases hframe : world.frame? reader with
  | none => simp [chain, chainWithin, hframe]
  | some frame => exact h.find?_with_target htarget (h.outward hframe) other

theorem Nested.propertyOwner?_setProperty_self (key : String) (v : Value) :
    (world.setProperty id name key v).propertyOwner? id name = some target := by
  rw [h.propertyOwner?_setProperty htarget hid]
  cases howner : world.propertyOwner? id name with
  | some owner =>
      rw [howner] at htarget
      exact congrArg some htarget
  | none =>
      obtain rfl : id = target := by rwa [howner] at htarget
      obtain ⟨frame, hframe⟩ := hid
      have hmem : id ∈ world.chain id := by simp [chain, chainWithin, hframe]
      rw [Option.none_or, if_pos ⟨rfl, hmem⟩]

theorem Nested.owner_setProperty_iff (key : String) (v : Value) (reader owner : FrameId) :
    (world.setProperty id name key v).Owner reader name owner ↔ world.Owner reader name owner ∨
      owner = target ∧ target ∈ world.chain reader ∧ ∀ other, ¬world.Owner reader name other := by
  rw [← (h.setProperty id name key v).owner_iff, h.propertyOwner?_setProperty htarget hid]
  simp only [← h.owner_iff]
  cases world.propertyOwner? reader name with
  | some found => simp
  | none => by_cases hmem : target ∈ world.chain reader <;> simp [hmem, eq_comm]

omit h in
theorem localProperties_setProperty (key : String) (v : Value) (other : String) (reader : FrameId) :
    (world.setProperty id name key v).localProperties other reader =
      if other = name ∧ reader = target then (world.localProperties name reader).insert key v
      else world.localProperties other reader := by
  obtain ⟨frame, hframe⟩ := hasFrame_target htarget hid
  rw [localProperties, localProperties, localProperties, frame?_setProperty htarget]
  by_cases hreader : reader = target
  · subst hreader
    simp [hframe, Frame.propertiesOf_setProperty]
  · simp [hreader]

theorem Nested.properties_setProperty (key : String) (v : Value) (reader : FrameId)
    (other : String) :
    (world.setProperty id name key v).properties reader other =
      if other = name ∧
          (world.setProperty id name key v).propertyOwner? reader other = some target then
        (world.properties reader other).insert key v
      else world.properties reader other := by
  rw [properties_eq, properties_eq, h.propertyOwner?_setProperty htarget hid]
  cases hbefore : world.propertyOwner? reader other with
  | some owner =>
      rw [Option.some_or, Option.elim_some, Option.elim_some,
        localProperties_setProperty htarget hid]
      simp only [Option.some.injEq]
      by_cases hname : other = name
      · rw [hname]
      · rw [if_neg fun hboth => hname hboth.1, if_neg fun hboth => hname hboth.1]
  | none =>
      rw [Option.none_or]
      by_cases hnew : other = name ∧ target ∈ world.chain reader
      · have hfree : world.localProperties name target = [] := by
          rw [hnew.1] at hbefore
          exact localProperties_of_not_owns
            (Bool.eq_false_iff.mpr (List.find?_eq_none.mp hbefore target hnew.2))
        rw [if_pos hnew, Option.elim_some, Option.elim_none,
          localProperties_setProperty htarget hid,
          if_pos ⟨hnew.1, rfl⟩, if_pos ⟨hnew.1, rfl⟩, hfree]
      · rw [if_neg hnew, if_neg (by simp), Option.elim_none, Option.elim_none]

theorem Nested.property?_setProperty (key : String) (v : Value) (reader : FrameId)
    (other otherKey : String) :
    (world.setProperty id name key v).property? reader other otherKey =
      if (other, otherKey) = (name, key) ∧
        (world.setProperty id name key v).propertyOwner? reader name = some target then some v
      else world.property? reader other otherKey := by
  rw [property?, h.properties_setProperty htarget hid]
  by_cases hseen : other = name ∧
      (world.setProperty id name key v).propertyOwner? reader other = some target
  · obtain ⟨rfl, howner⟩ := hseen
    rw [if_pos ⟨rfl, howner⟩, Bindings.find?_insert]
    simp [howner, property?]
  · rw [if_neg hseen, if_neg, property?]
    rintro ⟨hboth, howner⟩
    obtain ⟨rfl, rfl⟩ := Prod.mk.inj hboth
    exact hseen ⟨rfl, howner⟩

end Reading

/-- A property that is set is there when it is read from the same frame, among the properties that
the name had before. No variable, slot or record of supply of any frame changes, and nothing else of
the world does. From every frame, every other property of the name and every property of another
name is what it was. The property is set where the properties of the name have their owner, or in
the frame itself, which then is their owner for all frames inside it that had none. It is read from
the frames for which this is the owner, and the others read what they did before. -/
theorem Nested.setProperty_confined (h : world.Nested) {id : FrameId} (hid : world.HasFrame id)
    (name key : String) (v : Value) :
    let after := world.setProperty id name key v
    after.property? id name key = some v ∧
    after.properties id name = (world.properties id name).insert key v ∧
    (∀ reader, (after.frame? reader).map (fun frame =>
        (frame.locals, frame.call, frame.parent, frame.missing)) =
      (world.frame? reader).map (fun frame => (frame.locals, frame.call, frame.parent,
        frame.missing))) ∧
    { after with frames := world.frames } = world ∧
    (∀ reader other otherKey, (other, otherKey) ≠ (name, key) →
      after.property? reader other otherKey = world.property? reader other otherKey) ∧
    (∃ target, world.PropertyTarget id name target) ∧
    ∀ target, world.PropertyTarget id name target →
      (∀ reader owner, after.Owner reader name owner ↔ world.Owner reader name owner ∨
        owner = target ∧ target ∈ world.chain reader ∧ ∀ other, ¬world.Owner reader name other) ∧
      ∀ reader, (after.Owner reader name target → after.property? reader name key = some v) ∧
        (¬after.Owner reader name target →
          after.property? reader name key = world.property? reader name key) := by
  intro after
  have hafter : after.Nested := h.setProperty id name key v
  obtain ⟨target, htarget⟩ : ∃ target, (world.propertyOwner? id name).getD id = target := ⟨_, rfl⟩
  have hself := h.propertyOwner?_setProperty_self htarget hid key v
  refine ⟨?_, ?_, ?_, rfl, ?_, ⟨target, (h.propertyTarget_iff _ _ _).mpr htarget⟩, ?_⟩
  · rw [h.property?_setProperty htarget hid, if_pos ⟨rfl, hself⟩]
  · rw [h.properties_setProperty htarget hid, if_pos ⟨rfl, hself⟩]
  · intro reader
    rw [frame?_setProperty htarget]
    split
    · cases world.frame? reader <;> rfl
    · rfl
  · intro reader other otherKey hother
    rw [h.property?_setProperty htarget hid, if_neg fun hboth => hother hboth.1]
  · intro target htarget
    rw [h.propertyTarget_iff] at htarget
    refine ⟨h.owner_setProperty_iff htarget hid key v, ?_⟩
    intro reader
    rw [h.property?_setProperty htarget hid, ← hafter.owner_iff]
    exact ⟨fun howner => if_pos ⟨rfl, howner⟩, fun howner => if_neg fun hboth => howner hboth.2⟩

/-- A property set on a name that is bound nowhere, from a frame inside which another frame has
properties for that name already. -/
theorem Nested.setProperty_confined_unbound :
    let perform (world : World) (move : Move) : World := Eval.worldAfter
      (move.perform (Eval.evaluatorUntil Eval.never 10 10) { world with trace := .empty })
    let frames := perform (perform (perform (perform (.initial .raise) (.newChild World.root))
      (.newChild ⟨1⟩)) (.newChild ⟨1⟩)) (.newChild World.root)
    let world := perform frames (.setProperty ⟨2⟩ "x" "kind" (.int 1))
    let after := world.setProperty ⟨1⟩ "x" "doc" (.int 2)
    world.propertyOwner? ⟨1⟩ "x" = none ∧ after.property? ⟨1⟩ "x" "doc" = some (.int 2) ∧
    -- a frame inside that had no owner
    (after.Owner ⟨3⟩ "x" ⟨1⟩ ∧ after.property? ⟨3⟩ "x" "doc" = some (.int 2) ∧
      after.property? ⟨3⟩ "x" "kind" = world.property? ⟨3⟩ "x" "kind") ∧
    -- the frame inside that is its own owner
    (after.Owner ⟨2⟩ "x" ⟨2⟩ ∧ after.property? ⟨2⟩ "x" "kind" = world.property? ⟨2⟩ "x" "kind" ∧
      (world.property? ⟨2⟩ "x" "kind").isSome = true) ∧
    -- the frame beside it
    after.property? ⟨4⟩ "x" "doc" = world.property? ⟨4⟩ "x" "doc" := by
  intro perform frames world after
  have hreached : ReachedBy 10 .raise (fun world move => move.Refers world) world :=
    .move _ _ _ _ (.move _ _ _ _ (.move _ _ _ _ (.move _ _ _ _ (.move _ _ _ _ .start ⟨_, rfl⟩)
      ⟨_, rfl⟩) ⟨_, rfl⟩) ⟨_, rfl⟩) trivial
  have hnested := hreached.wellFormed.frames
  have hfree : world.propertyOwner? ⟨1⟩ "x" = none := by decide +kernel
  have howned (id owner : FrameId) (hfound : world.propertyOwner? id "x" = some owner) :
      world.Owner id "x" owner := (hnested.owner_iff _ _ _).mp hfound
  have hunowned (id : FrameId) (hnone : world.propertyOwner? id "x" = none) (owner : FrameId) :
      ¬world.Owner id "x" owner := by
    rw [← hnested.owner_iff, hnone]
    simp
  obtain ⟨hset, -, -, -, hothers, -, htargets⟩ :=
    hnested.setProperty_confined (show world.HasFrame ⟨1⟩ from ⟨_, rfl⟩) "x" "doc" (.int 2)
  obtain ⟨howner, hread⟩ := htargets ⟨1⟩ (.inr ⟨rfl, hunowned _ hfree⟩)
  have hinside : after.Owner ⟨3⟩ "x" ⟨1⟩ :=
    (howner _ _).mpr (.inr ⟨rfl, by decide +kernel, hunowned _ (by decide +kernel)⟩)
  have hown : after.Owner ⟨2⟩ "x" ⟨2⟩ := (howner _ _).mpr (.inl (howned _ _ (by decide +kernel)))
  refine ⟨hfree, hset, ⟨hinside, (hread ⟨3⟩).1 hinside, hothers _ _ _ (by decide)⟩,
    ⟨hown, hothers _ _ _ (by decide), by decide +kernel⟩, (hread ⟨4⟩).2 ?_⟩
  rw [howner]
  rintro (hbefore | ⟨-, hmem, -⟩)
  · exact hunowned ⟨4⟩ (by decide +kernel) _ hbefore
  · exact absurd hmem (by decide +kernel)

end World

end LispEngine
