import LispEngine.Proofs.Views

/-!
# Removal

Removing a name clears it from every frame of a chain, in each of the ways in which a frame may bind
it. Since no two names share a place, nothing else is cleared. A frame that does not bind the name
is left as it is, which makes a second removal do nothing.
-/

namespace LispEngine

/-! ## Places -/

namespace LambdaList.Indexed

variable {spec : LambdaList Node} (h : spec.Indexed) {name other : String} {index : Nat}

include h

theorem indexOf?_injective (hname : spec.indexOf? name = some index)
    (hother : spec.indexOf? other = some index) : other = name := by
  obtain ⟨p, hp, rfl⟩ := (h.name name index).mp hname
  obtain ⟨q, hq, rfl⟩ := (h.name other index).mp hother
  rw [hp] at hq
  cases hq
  rfl

theorem flagIndex?_injective (hname : spec.flagIndex? name = some index)
    (hother : spec.flagIndex? other = some index) : other = name := by
  obtain ⟨p, hp, hflag⟩ := (h.flag name index).mp hname
  obtain ⟨q, hq, hflag'⟩ := (h.flag other index).mp hother
  rw [hp] at hq
  cases hq
  exact Option.some.inj (hflag'.symm.trans hflag)

end LambdaList.Indexed

namespace CallSlots

section Blank

variable {α : Type} {blank : α} {inUse : α → Bool} {items : List α}

private theorem fst_blankAt (place : Option Nat) :
    (blankAt blank inUse items place).1 = (place.bind (items[·]?)).any inUse := by
  cases place <;> rfl

theorem getElem?_blankAt {place : String → Option Nat} {name other : String}
    (hplace : ∀ index, place name = some index → place other = some index → other = name) :
    (place other).bind ((blankAt blank inUse items (place name)).2[·]?) =
      if other = name then ((place name).bind (items[·]?)).map fun _ => blank
      else (place other).bind (items[·]?) := by
  by_cases hname : other = name
  · subst hname
    cases place other with
    | none => simp
    | some index => cases hitem : items[index]? <;> simp [blankAt, List.getElem?_set_self', hitem]
  · rw [if_neg hname]
    cases hother : place other with
    | none => rfl
    | some index =>
        cases hcleared : place name with
        | none => rfl
        | some cleared =>
            have hne : cleared ≠ index := by
              rintro rfl
              exact hname (hplace cleared hcleared hother)
            simp [blankAt, List.getElem?_set, hne]

theorem blankAt_of_not_inUse (hblank : ∀ item, inUse item = false → item = blank)
    {place : Option Nat} (h : (blankAt blank inUse items place).1 = false) :
    (blankAt blank inUse items place).2 = items := by
  cases place with
  | none => rfl
  | some index =>
      cases hitem : items[index]? with
      | none => exact List.set_eq_of_length_le (List.getElem?_eq_none_iff.mp hitem)
      | some item =>
          have hfree : inUse item = false := by simpa [blankAt, hitem] using h
          rw [hblank item hfree, List.getElem?_eq_some_iff] at hitem
          obtain ⟨hlt, hsame⟩ := hitem
          rw [blankAt, ← hsame]
          exact List.set_getElem_self hlt

end Blank

variable (call : CallSlots) (name other : String)

theorem fst_remove : (call.remove name).1 = call.binds name := by
  simp only [remove, binds, fst_blankAt]

variable {name other} in
theorem slot?_remove (hplace : ∀ index, call.spec.indexOf? name = some index →
      call.spec.indexOf? other = some index → other = name) :
    (call.remove name).2.slot? other = if other = name then none else call.slot? other := by
  change (((call.spec.indexOf? other).bind ((blankAt .unset Slot.isSet call.slots
    (call.spec.indexOf? name)).2[·]?)).bind Slot.found?) = _
  rw [getElem?_blankAt hplace]
  by_cases hname : other = name
  · rw [if_pos hname, if_pos hname]
    cases (call.spec.indexOf? name).bind (call.slots[·]?) <;> rfl
  · rw [if_neg hname, if_neg hname, slot?]

variable {name other} in
theorem flag?_remove (hplace : ∀ index, call.spec.flagIndex? name = some index →
      call.spec.flagIndex? other = some index → other = name) :
    (call.remove name).2.flag? other = if other = name then none else call.flag? other := by
  change (((call.spec.flagIndex? other).bind ((blankAt none Option.isSome call.supplied
    (call.spec.flagIndex? name)).2[·]?)).join).map _ = _
  rw [getElem?_blankAt hplace]
  by_cases hname : other = name
  · rw [if_pos hname, if_pos hname]
    cases (call.spec.flagIndex? name).bind (call.supplied[·]?) <;> rfl
  · rw [if_neg hname, if_neg hname, flag?]

theorem find?_remove_self : (call.remove name).2.find? name = none := by
  rw [find?, slot?_remove call fun _ _ _ => rfl, flag?_remove call fun _ _ _ => rfl, if_pos rfl,
    if_pos rfl]
  rfl

variable {call name other} in
theorem find?_remove_of_ne (h : call.spec.Indexed) (hother : other ≠ name) :
    (call.remove name).2.find? other = call.find? other := by
  rw [find?, slot?_remove call fun _ => h.indexOf?_injective,
    flag?_remove call fun _ => h.flagIndex?_injective, if_neg hother, if_neg hother]
  rfl

theorem remove_of_not_binds (h : call.binds name = false) : (call.remove name).2 = call := by
  rw [← fst_remove] at h
  obtain ⟨hslots, hsupplied⟩ := Bool.or_eq_false_iff.mp h
  have hslot (slot : Slot) (hfree : slot.isSet = false) : slot = .unset := by
    cases slot with
    | unset => rfl
    | ready v => cases hfree
    | deferred thunk => cases hfree
  have hflag (supplied : Option Bool) (hfree : supplied.isSome = false) : supplied = none := by
    simpa using hfree
  simp only [remove, blankAt_of_not_inUse hslot hslots, blankAt_of_not_inUse hflag hsupplied]

end CallSlots

/-! ## Frames -/

namespace Frame

variable (frame : Frame) (name : String)

theorem fst_remove : (frame.remove name).1 = frame.binds name := by
  simp only [remove, binds, CallSlots.fst_remove]

theorem find?_remove_self : (frame.remove name).2.find? name = none := by
  unfold find? remove
  rw [Bindings.find?_erase]
  cases frame.call with
  | none => simp
  | some call => simp [CallSlots.find?_remove_self]

variable {frame name} in
theorem find?_remove_of_ne (h : ∀ call, frame.call = some call → call.spec.Indexed)
    {other : String} (hother : other ≠ name) :
    (frame.remove name).2.find? other = frame.find? other := by
  unfold find? remove
  rw [Bindings.find?_erase]
  cases hcall : frame.call with
  | none => simp [hother]
  | some call => simp [hother, CallSlots.find?_remove_of_ne (h call hcall) hother]

variable {frame name} in
theorem remove_of_not_binds (h : frame.binds name = false) : (frame.remove name).2 = frame := by
  obtain ⟨hlocals, hcall⟩ := Bool.or_eq_false_iff.mp h
  have hslots : (frame.call.map fun call => (call.remove name).2) = frame.call := by
    cases hframe : frame.call with
    | none => rfl
    | some call =>
        rw [hframe] at hcall
        exact congrArg some (call.remove_of_not_binds name hcall)
  simp only [remove, Bindings.erase_of_not_has hlocals, hslots]

theorem binds_remove : (frame.remove name).2.binds name = false := by
  rw [binds_eq, find?_remove_self]
  rfl

theorem remove_remove : ((frame.remove name).2.remove name).2 = (frame.remove name).2 :=
  remove_of_not_binds (frame.binds_remove name)

end Frame

/-! ## Chains -/

namespace World

section Steps

variable {world : World} {name : String}

theorem fst_removeLocal (world : World) (id : FrameId) (name : String) :
    (world.removeLocal id name).1 = world.bindsLocally name id := by
  simp only [removeLocal, bindsLocally, Frame.fst_remove]

private theorem modifyFrame_of_same {id : FrameId} {change : Frame → Frame}
    (h : ∀ frame, world.frame? id = some frame → change frame = frame) :
    world.modifyFrame id change = world := by
  have hframes : world.frames.modify id.index change = world.frames := by
    apply Array.ext_getElem?
    intro index
    rw [Array.getElem?_modify]
    by_cases hindex : id.index = index
    · subst hindex
      rw [if_pos rfl]
      cases hframe : world.frames[id.index]? with
      | none => rfl
      | some frame => exact congrArg some (h frame hframe)
    · rw [if_neg hindex]
  rw [modifyFrame, hframes]

private theorem removeLocal_of_not_binds {id : FrameId} (h : world.bindsLocally name id = false) :
    world.removeLocal id name = (false, world) := by
  refine Prod.ext ((world.fst_removeLocal id name).trans h) (modifyFrame_of_same ?_)
  intro frame hframe
  exact Frame.remove_of_not_binds (by simpa [bindsLocally, hframe] using h)

theorem removeNext_of_not_binds {id : FrameId} (h : world.bindsLocally name id = false)
    (bound : Bool) :
    removeNext name (bound, world) id = (bound, world) := by
  simp only [removeNext, removeLocal_of_not_binds h, Bool.or_false]

theorem foldl_removeNext_of_not_binds {path : List FrameId}
    (h : ∀ id ∈ path, world.bindsLocally name id = false) (bound : Bool) :
    path.foldl (removeNext name) (bound, world) = (bound, world) := by
  induction path with
  | nil => rfl
  | cons id path ih =>
      obtain ⟨hfirst, hrest⟩ := List.forall_mem_cons.mp h
      rw [List.foldl_cons, removeNext_of_not_binds hfirst, ih hrest]

private theorem fst_foldl_removeNext (path : List FrameId) (removed : Bool × World) :
    (path.foldl (removeNext name) removed).1 =
      (removed.1 || path.any (removed.2.bindsLocally name)) := by
  have hkept (path : List FrameId) (world : World) :
      (path.foldl (removeNext name) (true, world)).1 = true := by
    induction path generalizing world with
    | nil => rfl
    | cons id path ih => exact ih _
  induction path generalizing removed with
  | nil => simp
  | cons id path ih =>
      obtain ⟨bound, world⟩ := removed
      rw [List.foldl_cons, List.any_cons]
      cases hbinds : world.bindsLocally name id with
      | false => rw [removeNext_of_not_binds hbinds, ih, Bool.false_or]
      | true =>
          have hnext : removeNext name (bound, world) id =
            (true, (world.removeLocal id name).2) := by
            simp only [removeNext, fst_removeLocal, hbinds, Bool.or_true]
          rw [hnext, hkept, Bool.true_or, Bool.or_true]

end Steps

section Reading

variable (world : World) (id : FrameId) (name : String)

theorem fst_remove : (world.remove id name).1 = world.contains id name :=
  fst_foldl_removeNext _ (false, world)

theorem frame?_remove (other : FrameId) : (world.remove id name).2.frame? other =
    if other ∈ world.chain id then (world.frame? other).map fun frame => (frame.remove name).2
    else world.frame? other := by
  rw [remove_snd]
  induction world.chain id generalizing world with
  | nil => rfl
  | cons first path ih =>
      rw [List.foldl_cons, ih, frame?_modifyFrame]
      by_cases hfirst : other = first
      · rw [if_pos hfirst, if_pos (List.mem_cons.mpr (.inl hfirst)), Option.map_map]
        -- removing twice is removing once
        simp only [Function.comp_def, Frame.remove_remove, ite_self]
      · simp [hfirst]

theorem chain_remove (start : FrameId) :
    (world.remove id name).2.chain start = world.chain start := by
  rw [remove_snd]
  induction world.chain id generalizing world with
  | nil => rfl
  | cons first path ih =>
      rw [List.foldl_cons, ih]
      exact chainWithin_modifyFrame first
        (fun frame => (frame.sameShape_remove name).parent) _ start

theorem missingPolicy_remove (reader : FrameId) :
    (world.remove id name).2.missingPolicy reader = world.missingPolicy reader := by
  unfold missingPolicy
  rw [frame?_remove]
  cases world.frame? reader with
  | none => simp
  | some frame => by_cases hreader : reader ∈ world.chain id <;> simp [hreader, Frame.remove]

variable {world} in
theorem Nested.localFind?_remove_of_ne (h : world.Nested) {other : String} (hother : other ≠ name)
    (reader : FrameId) :
    (world.remove id name).2.localFind? other reader = world.localFind? other reader := by
  unfold localFind?
  rw [frame?_remove]
  by_cases hreader : reader ∈ world.chain id
  · cases hframe : world.frame? reader with
    | none => simp
    | some frame =>
        have hindexed (call : CallSlots) (hcall : frame.call = some call) : call.spec.Indexed :=
          ((h reader frame hframe).call call hcall).accepted.orderly.indexed
        simp [hreader, Frame.find?_remove_of_ne hindexed hother]
  · simp [hreader]

variable {world} in
theorem Nested.find?_remove_of_ne (h : world.Nested) {other : String} (hother : other ≠ name)
    (reader : FrameId) :
    (world.remove id name).2.find? reader other = world.find? reader other := by
  rw [find?, find?, chain_remove]
  apply Nested.findSome?_localFind?_congr
  intro frame _
  exact h.localFind?_remove_of_ne id name hother frame

theorem bindsLocally_remove {other : FrameId} (hother : other ∈ world.chain id) :
    (world.remove id name).2.bindsLocally name other = false := by
  rw [bindsLocally_eq, localFind?, frame?_remove, if_pos hother]
  cases world.frame? other with
  | none => rfl
  | some frame =>
      rw [Option.map_some, Option.bind_some, Frame.find?_remove_self]
      rfl

end Reading

/-- Removing a name tells whether the frame contained it, that is, whether a frame of the walk
outwards bound it. Afterwards no frame of the walk binds the name, whether as a variable, in a slot
or as a record of supply. Every other name stands in every frame for what it did before: the same
value, the same deferred argument in the same state, or nothing, under the same policy. Frames that
are not on the walk are as before, and a second removal does nothing. -/
theorem Nested.remove_clears {world : World} (h : world.Nested) {id : FrameId}
    (hid : world.HasFrame id) (name : String) :
    world.Outward id (world.chain id) ∧
    ((world.remove id name).1 = true ↔ world.contains id name = true) ∧
    (world.contains id name = true ↔ ∃ other ∈ world.chain id, world.Binds other name) ∧
    (∀ other ∈ world.chain id, ¬(world.remove id name).2.Binds other name) ∧
    (∀ reader other, other ≠ name →
      (world.remove id name).2.find? reader other = world.find? reader other ∧
      (world.remove id name).2.missingPolicy reader = world.missingPolicy reader) ∧
    (world.remove id name).2.thunks = world.thunks ∧
    (∀ other, other ∉ world.chain id → (world.remove id name).2.frame? other = world.frame? other) ∧
    (world.remove id name).2.remove id name = (false, (world.remove id name).2) := by
  have hnested := (h.remove id name).1
  obtain ⟨frame, hframe⟩ := hid
  refine ⟨h.outward hframe, by rw [fst_remove], h.contains_iff id name, ?_, ?_,
    world.thunks_remove id name, ?_, ?_⟩
  · intro other hother hbinds
    have hbound := (hnested.bindsLocally_iff other name).mpr hbinds
    rw [world.bindsLocally_remove id name hother] at hbound
    cases hbound
  · intro reader other hother
    exact ⟨h.find?_remove_of_ne id name hother reader, world.missingPolicy_remove id name reader⟩
  · intro other hother
    rw [frame?_remove, if_neg hother]
  · apply foldl_removeNext_of_not_binds
    intro other hother
    rw [chain_remove] at hother
    exact world.bindsLocally_remove id name hother

/-- The removal of a name from the frame of a call, which binds it as a variable and as a record of
supply, with a variable of that name in the root. The parameter whose supply was recorded and the
frame beside the call keep what they have. -/
theorem Nested.remove_clears_record :
    let perform (world : World) (move : Move) : World := Eval.worldAfter
      (move.perform (Eval.evaluatorUntil Eval.never 10 10) { world with trace := .empty })
    let spec : LambdaList Node := .ofList [⟨"a", .optional, none, some "x", false, false, false⟩]
    let called := perform (perform (perform (.initial .raise) (.setLocal World.root "x" (.int 1)))
      (.evaluation (.frame World.root World.root ⟨spec, [.missing]⟩))) (.setLocal ⟨1⟩ "x" (.int 2))
    let world := perform (perform called (.newChild World.root)) (.setLocal ⟨2⟩ "x" (.int 3))
    let after := (world.remove ⟨1⟩ "x").2
    (world.remove ⟨1⟩ "x").1 = true ∧ ¬after.Binds ⟨1⟩ "x" ∧ ¬after.Binds World.root "x" ∧
    after.find? ⟨1⟩ "a" = some (.value .nil) ∧
    (world.localFind? "x" ⟨2⟩ = some (.value (.int 3)) ∧ after.frame? ⟨2⟩ = world.frame? ⟨2⟩) ∧
    after.remove ⟨1⟩ "x" = (false, after) := by
  intro perform spec called world after
  have hoptional : Marker.ofText? "&OPTIONAL" = some .optional := by decide +kernel
  have hread : (LambdaList.ofTokens [.marker "&OPTIONAL", .compound "a" none (some "x")] :
      Except Cause (LambdaList Node)) = .ok spec := by
    simp only [LambdaList.ofTokens, LambdaReader.takeAll, LambdaReader.take,
      LambdaReader.takeMarker, hoptional]
    rfl
  have harguments : BoundArguments.All Node.Proper ⟨spec, [.missing]⟩ := by
    simp [BoundArguments.All, LambdaParts.defaults, Bound.nodes, spec]
  have hcalled : ReachedBy 10 .raise (fun world move => move.Refers world) called :=
    .move _ _ _ _ (.move _ _ _ _ (.move _ _ _ _ .start trivial)
      ⟨⟨_, rfl⟩, ⟨_, rfl⟩, harguments, .read hread⟩) trivial
  have hreached : ReachedBy 10 .raise (fun world move => move.Refers world) world :=
    .move _ _ _ _ (.move _ _ _ _ hcalled ⟨_, rfl⟩) trivial
  have hchain : world.chain ⟨1⟩ = [⟨1⟩, World.root] := by decide +kernel
  have hslot : world.find? ⟨1⟩ "a" = some (.value .nil) := rfl
  obtain ⟨-, hflag, -, hcleared, hothers, -, hbeside, hagain⟩ :=
    hreached.wellFormed.frames.remove_clears (show world.HasFrame ⟨1⟩ from ⟨_, rfl⟩) "x"
  rw [hchain] at hcleared
  refine ⟨hflag.mpr (by decide +kernel), hcleared _ (by simp), hcleared _ (by simp), ?_,
    ⟨rfl, hbeside ⟨2⟩ ?_⟩, hagain⟩
  · exact (hothers ⟨1⟩ "a" (by decide)).1.trans hslot
  · rw [hchain]
    decide

end World

end LispEngine
