import LispEngine.Proofs.WellFormed

/-!
# Assignment

An assignment goes to one frame, and is seen from the frames whose walk outwards comes to that frame
before any other frame that binds the name. Everything else reads as before, whether a variable, a
slot or a supply record binds it.
-/

namespace LispEngine

/-! ## Names that a frame binds -/

/-- A frame binds a name as a variable of its own, as a parameter whose slot is filled, or as the
name under which it is recorded whether a parameter was supplied. -/
inductive Frame.Binds (frame : Frame) (name : String) : Prop where
  | own {v : Value} (found : frame.locals.find? name = some v)
  | slot {call : CallSlots} {index : Nat} {p : Parameter Node} {slot : Slot}
      (isCall : frame.call = some call) (declared : call.spec.parameters[index]? = some p)
      (named : p.name = name) (found : call.slots[index]? = some slot) (filled : slot.isSet = true)
  | record {call : CallSlots} {index : Nat} {p : Parameter Node} {supplied : Bool}
      (isCall : frame.call = some call) (declared : call.spec.parameters[index]? = some p)
      (named : p.suppliedFlag = some name) (found : call.supplied[index]? = some (some supplied))

namespace CallSlots

variable {call : CallSlots} (h : call.spec.Indexed) {name : String} {found : Found}

include h

theorem slot?_eq_some_iff : call.slot? name = some found ↔
    ∃ (index : Nat) (p : Parameter Node) (slot : Slot), call.spec.parameters[index]? = some p ∧
      p.name = name ∧ call.slots[index]? = some slot ∧ slot.found? = some found := by
  simp only [slot?, Option.bind_eq_some_iff, h.name]
  constructor
  · rintro ⟨slot, ⟨index, ⟨p, hp, hname⟩, hslot⟩, hfound⟩
    exact ⟨index, p, slot, hp, hname, hslot, hfound⟩
  · rintro ⟨index, p, slot, hp, hname, hslot, hfound⟩
    exact ⟨slot, ⟨index, ⟨p, hp, hname⟩, hslot⟩, hfound⟩

theorem flag?_eq_some_iff : call.flag? name = some found ↔
    ∃ (index : Nat) (p : Parameter Node) (supplied : Bool), call.spec.parameters[index]? = some p ∧
      p.suppliedFlag = some name ∧ call.supplied[index]? = some (some supplied) ∧
      found = .value (.bool supplied) := by
  simp only [flag?, Option.map_eq_some_iff, Option.join_eq_some_iff, Option.bind_eq_some_iff,
    h.flag]
  constructor
  · rintro ⟨supplied, ⟨index, ⟨p, hp, hname⟩, hsupplied⟩, rfl⟩
    exact ⟨index, p, supplied, hp, hname, hsupplied, rfl⟩
  · rintro ⟨index, p, supplied, hp, hname, hsupplied, rfl⟩
    exact ⟨supplied, ⟨index, ⟨p, hp, hname⟩, hsupplied⟩, rfl⟩

end CallSlots

namespace Frame

theorem binds_iff {frame : Frame} (hcall : ∀ call, frame.call = some call → call.Fits)
    (name : String) :
    frame.binds name = true ↔ frame.Binds name := by
  have hset (slot : Slot) : slot.isSet = true ↔ ∃ found, slot.found? = some found := by
    cases slot <;> simp [Slot.isSet, Slot.found?]
  rw [binds_eq]
  unfold find?
  cases hlocal : frame.locals.find? name with
  | some v => exact ⟨fun _ => .own hlocal, fun _ => rfl⟩
  | none =>
      constructor
      · intro hbinds
        obtain ⟨found, hfound⟩ := Option.isSome_iff_exists.mp hbinds
        obtain ⟨call, hframe, hcallFound⟩ := Option.bind_eq_some_iff.mp hfound
        have hindexed := (hcall call hframe).accepted.orderly.indexed
        rcases Option.or_eq_some_iff.mp hcallFound with hslot | ⟨-, hflag⟩
        · obtain ⟨index, p, slot, hp, hname, hget, hheld⟩ :=
            (CallSlots.slot?_eq_some_iff hindexed).mp hslot
          exact .slot hframe hp hname hget ((hset slot).mpr ⟨found, hheld⟩)
        · obtain ⟨index, p, supplied, hp, hname, hget, -⟩ :=
            (CallSlots.flag?_eq_some_iff hindexed).mp hflag
          exact .record hframe hp hname hget
      · intro hbinds
        cases hbinds with
        | own hown => simp [hlocal] at hown
        | slot hframe hp hname hget hfilled =>
            have hindexed := (hcall _ hframe).accepted.orderly.indexed
            obtain ⟨found, hheld⟩ := (hset _).mp hfilled
            have hslot :=
              (CallSlots.slot?_eq_some_iff hindexed).mpr ⟨_, _, _, hp, hname, hget, hheld⟩
            simp [hframe, CallSlots.find?, hslot]
        | record hframe hp hname hget =>
            have hindexed := (hcall _ hframe).accepted.orderly.indexed
            have hflag := (CallSlots.flag?_eq_some_iff hindexed).mpr ⟨_, _, _, hp, hname, hget, rfl⟩
            simp [hframe, CallSlots.find?, hflag]

theorem find?_set (frame : Frame) (name other : String) (v : Value) :
    (frame.set name v).find? other =
      if other = name then some (.value v) else frame.find? other := by
  unfold find? set
  rw [Bindings.find?_insert]
  by_cases hname : other = name
  · rw [if_pos hname, if_pos hname]
  · rw [if_neg hname, if_neg hname]

end Frame

namespace World

def Binds (world : World) (id : FrameId) (name : String) : Prop :=
  ∃ frame, world.frame? id = some frame ∧ frame.Binds name

/-- On the walk outwards from a frame, a target comes before any other frame that binds the name. -/
def Exposes (world : World) (id target : FrameId) (name : String) : Prop :=
  ∃ near far, world.Outward id (near ++ target :: far) ∧ ∀ other ∈ near, ¬world.Binds other name

/-- The frame that an assignment goes to: the root, or the nearest frame that binds the name, which
is the frame itself where none does. -/
def Target (world : World) : Discipline → FrameId → String → FrameId → Prop
  | .global, id, _, target => ∃ near, world.Outward id (near ++ [target])
  | .nearest, id, name, target => (world.Exposes id target name ∧ world.Binds target name) ∨
      target = id ∧ ∃ path, world.Outward id path ∧ ∀ other ∈ path, ¬world.Binds other name

variable {world : World}

/-! ## Walks -/

theorem Outward.ne_nil {id : FrameId} {path : List FrameId} (h : world.Outward id path) :
    path ≠ [] := by
  cases h <;> simp

theorem Outward.hasFrame {id other : FrameId} {path : List FrameId} (h : world.Outward id path)
    (hother : other ∈ path) : world.HasFrame other := by
  induction h with
  | root hfound _ =>
      obtain rfl := List.mem_singleton.mp hother
      exact ⟨_, hfound⟩
  | step hfound _ _ ih =>
      rcases List.mem_cons.mp hother with rfl | hrest
      · exact ⟨_, hfound⟩
      · exact ih hrest

theorem chainWithin_modifyFrame (id : FrameId) {change : Frame → Frame}
    (hchange : ∀ frame, (change frame).parent = frame.parent) (steps : Nat) (start : FrameId) :
    (world.modifyFrame id change).chainWithin steps start = world.chainWithin steps start := by
  induction steps generalizing start with
  | zero => rfl
  | succ steps ih =>
      have hparent : ((world.modifyFrame id change).frame? start).map Frame.parent =
          (world.frame? start).map Frame.parent := by
        rw [frame?_modifyFrame]
        split
        · cases world.frame? start with
          | none => rfl
          | some frame => exact congrArg some (hchange frame)
        · rfl
      cases hframe : world.frame? start with
      | none =>
          rw [hframe] at hparent
          have hnone := Option.map_eq_none_iff.mp hparent
          simp [chainWithin, hframe, hnone]
      | some frame =>
          rw [hframe] at hparent
          obtain ⟨later, hlater, hsame⟩ := Option.map_eq_some_iff.mp hparent
          simp only [chainWithin, hframe, hlater, hsame, ih]

theorem chain_setLocal (id : FrameId) (name : String) (v : Value) (start : FrameId) :
    (world.setLocal id name v).chain start = world.chain start :=
  chainWithin_modifyFrame id (fun frame => (frame.sameShape_set name v).parent) _ start

theorem missingPolicy_setLocal (id : FrameId) (name : String) (v : Value) (start : FrameId) :
    (world.setLocal id name v).missingPolicy start = world.missingPolicy start := by
  unfold missingPolicy setLocal
  rw [frame?_modifyFrame]
  by_cases hstart : start = id
  · rw [if_pos hstart]
    cases world.frame? start <;> rfl
  · rw [if_neg hstart]

theorem localFind?_setLocal {id : FrameId} (hid : world.HasFrame id) (name other : String)
    (v : Value) (start : FrameId) : (world.setLocal id name v).localFind? other start =
      if start = id ∧ other = name then some (.value v) else world.localFind? other start := by
  rw [localFind?, setLocal, frame?_modifyFrame]
  by_cases hstart : start = id
  · obtain ⟨frame, hframe⟩ := hid
    subst hstart
    simp [localFind?, hframe, Frame.find?_set]
  · simp [localFind?, hstart]

namespace Nested

variable (h : world.Nested)

include h

theorem eq_chain {id : FrameId} {path : List FrameId} (hpath : world.Outward id path) :
    path = world.chain id := by
  induction hpath with
  | root hfound hroot => exact (Nested.chain_root hfound hroot).symm
  | step hfound hparent _ ih => rw [h.chain_parent hfound hparent, ih]

omit h in
theorem hasFrame_of_mem_chain {id other : FrameId} (hother : other ∈ world.chain id) :
    world.HasFrame id := by
  cases hframe : world.frame? id with
  | none => simp [chain, chainWithin, hframe] at hother
  | some frame => exact ⟨frame, hframe⟩

theorem bindsLocally_iff (id : FrameId) (name : String) :
    world.bindsLocally name id = true ↔ world.Binds id name := by
  unfold bindsLocally Binds
  cases hframe : world.frame? id with
  | none => simp
  | some frame =>
      have hbinds : frame.binds name = true ↔ frame.Binds name :=
        Frame.binds_iff (h id frame hframe).call name
      simp [hbinds]

theorem not_binds_iff (id : FrameId) (name : String) :
    ¬world.Binds id name ↔ world.localFind? name id = none := by
  rw [← h.bindsLocally_iff, bindsLocally_eq]
  simp

/-! ## Where an assignment goes -/

theorem exists_target (discipline : Discipline) {id : FrameId} (hid : world.HasFrame id)
    (name : String) :
    ∃ target, world.Target discipline id name target := by
  obtain ⟨frame, hframe⟩ := hid
  have hwalk := h.outward hframe
  cases discipline with
  | global =>
      refine ⟨(world.chain id).getLast hwalk.ne_nil, (world.chain id).dropLast, ?_⟩
      rw [List.dropLast_concat_getLast]
      exact hwalk
  | nearest =>
      cases hbinder : world.binder? id name with
      | some target =>
          obtain ⟨hbinds, near, far, hsplit, hnear⟩ := List.find?_eq_some_iff_append.mp hbinder
          refine ⟨target, .inl ⟨⟨near, far, hsplit ▸ hwalk, ?_⟩,
            (h.bindsLocally_iff _ _).mp hbinds⟩⟩
          intro other hother
          rw [← h.bindsLocally_iff]
          simpa using hnear other hother
      | none =>
          refine ⟨id, .inr ⟨rfl, world.chain id, hwalk, ?_⟩⟩
          intro other hother
          rw [← h.bindsLocally_iff]
          exact List.find?_eq_none.mp hbinder other hother

theorem update_eq {discipline : Discipline} {id target : FrameId} {name : String}
    (htarget : world.Target discipline id name target) (v : Value) :
    world.update discipline id name v = world.setLocal target name v := by
  cases discipline with
  | global =>
      obtain ⟨near, hwalk⟩ := htarget
      have hroot : world.rootOf id = target := by
        rw [rootOf, ← h.eq_chain hwalk]
        simp
      rw [update, updateGlobal, hroot]
  | nearest =>
      have hbinder : (world.binder? id name).getD id = target := by
        rcases htarget with ⟨⟨near, far, hwalk, hnear⟩, hbinds⟩ | ⟨rfl, path, hwalk, hpath⟩
        · have hfirst : world.binder? id name = some target := by
            rw [binder?, ← h.eq_chain hwalk, List.find?_eq_some_iff_append]
            refine ⟨(h.bindsLocally_iff _ _).mpr hbinds, near, far, rfl, ?_⟩
            intro other hother
            simpa [← h.bindsLocally_iff] using hnear other hother
          rw [hfirst, Option.getD_some]
        · have hnone : world.binder? target name = none := by
            rw [binder?, ← h.eq_chain hwalk, List.find?_eq_none]
            intro other hother
            rw [h.bindsLocally_iff]
            exact hpath other hother
          rw [hnone, Option.getD_none]
      rw [update, updateNearest, hbinder]

omit h in
theorem hasFrame_of_target {discipline : Discipline} {id target : FrameId} {name : String}
    (htarget : world.Target discipline id name target) (hid : world.HasFrame id) :
    world.HasFrame target := by
  cases discipline with
  | global =>
      obtain ⟨near, hwalk⟩ := htarget
      exact hwalk.hasFrame (by simp)
  | nearest =>
      rcases htarget with ⟨⟨near, far, hwalk, -⟩, -⟩ | ⟨rfl, -⟩
      · exact hwalk.hasFrame (by simp)
      · exact hid

/-! ## What is read afterwards -/

omit h in
theorem findSome?_localFind?_congr {after : World} {path : List FrameId} {name : String}
    (hlocal : ∀ id ∈ path, after.localFind? name id = world.localFind? name id) :
    path.findSome? (after.localFind? name) = path.findSome? (world.localFind? name) := by
  induction path with
  | nil => rfl
  | cons id path ih =>
      obtain ⟨hfirst, hrest⟩ := List.forall_mem_cons.mp hlocal
      rw [List.findSome?_cons, List.findSome?_cons, hfirst, ih hrest]

section Reading

variable {target reader : FrameId} {name : String}

private theorem find?_setLocal_of_exposes (hexposes : world.Exposes reader target name)
    (v : Value) :
    (world.setLocal target name v).find? reader name = some (.value v) := by
  obtain ⟨near, far, hwalk, hnear⟩ := hexposes
  have htarget : world.HasFrame target := hwalk.hasFrame (by simp)
  rw [find?, chain_setLocal, ← h.eq_chain hwalk]
  -- the target may also stand among the nearer frames, where it gives the same
  clear hwalk
  induction near with
  | nil => simp [localFind?_setLocal htarget]
  | cons other near ih =>
      obtain ⟨hother, hrest⟩ := List.forall_mem_cons.mp hnear
      rw [h.not_binds_iff] at hother
      by_cases hsame : other = target
      · simp [localFind?_setLocal htarget, hsame]
      · simpa [localFind?_setLocal htarget, hsame, hother] using ih hrest

private theorem exists_nearer_of_not_exposes (hhidden : ¬world.Exposes reader target name)
    {near far : List FrameId} (hsplit : world.chain reader = near ++ target :: far) :
    ∃ nearer ∈ near, (world.localFind? name nearer).isSome = true := by
  apply Classical.byContradiction
  intro hnone
  obtain ⟨frame, hframe⟩ : world.HasFrame reader :=
    hasFrame_of_mem_chain (show target ∈ world.chain reader by simp [hsplit])
  refine hhidden ⟨near, far, hsplit ▸ h.outward hframe, ?_⟩
  intro nearer hnearer
  rw [h.not_binds_iff, ← Option.not_isSome_iff_eq_none]
  exact fun hsome => hnone ⟨nearer, hnearer, hsome⟩

private theorem find?_setLocal_of_not_exposes (htarget : world.HasFrame target) {other : String}
    (hhidden : ¬(other = name ∧ world.Exposes reader target name)) (v : Value) :
    (world.setLocal target name v).find? reader other = world.find? reader other := by
  have hlocal {start : FrameId} (hstart : ¬(start = target ∧ other = name)) :
      (world.setLocal target name v).localFind? other start = world.localFind? other start := by
    rw [localFind?_setLocal htarget, if_neg hstart]
  rw [find?, find?, chain_setLocal]
  by_cases hmem : target ∈ world.chain reader ∧ other = name
  · obtain ⟨hmem, rfl⟩ := hmem
    obtain ⟨near, far, hsplit, hfresh⟩ := List.eq_append_cons_of_mem hmem
    -- the search ends before it comes to the target
    have hfound := List.findSome?_isSome_iff.mpr
      (h.exists_nearer_of_not_exposes (fun hexposes => hhidden ⟨rfl, hexposes⟩) hsplit)
    have hnear : near.findSome? ((world.setLocal target other v).localFind? other) =
        near.findSome? (world.localFind? other) := by
      apply findSome?_localFind?_congr
      intro nearer hnearer
      apply hlocal
      rintro ⟨rfl, -⟩
      exact hfresh hnearer
    rw [hsplit, List.findSome?_append, List.findSome?_append, hnear, Option.or_of_isSome hfound,
      Option.or_of_isSome hfound]
  · apply findSome?_localFind?_congr
    intro start hstart
    apply hlocal
    rintro ⟨rfl, hname⟩
    exact hmem ⟨hstart, hname⟩

end Reading

end Nested

/-- An assignment, by either discipline, goes to one frame of the walk outwards. Afterwards the name
stands for the assigned value in every frame whose own walk comes to that frame before any other
that binds the name. Any other name, and this name in any other frame, stands for what it did
before: the same value, the same deferred argument in the same state, or nothing, under the same
policy. -/
theorem Nested.update_exposed (h : world.Nested) (discipline : Discipline) {id : FrameId}
    (hid : world.HasFrame id) (name : String) (v : Value) :
    (∃ target, world.Target discipline id name target) ∧
    ∀ target, world.Target discipline id name target →
      (∀ reader, world.Exposes reader target name →
        (world.update discipline id name v).find? reader name = some (.value v) ∧
        ∀ ev, Eval.readVariable ev reader name (world.update discipline id name v) =
          .ok v (world.update discipline id name v)) ∧
      (∀ reader other, ¬(other = name ∧ world.Exposes reader target name) →
        (world.update discipline id name v).find? reader other = world.find? reader other ∧
        (world.update discipline id name v).missingPolicy reader = world.missingPolicy reader) ∧
      (world.update discipline id name v).thunks = world.thunks := by
  refine ⟨h.exists_target discipline hid name, ?_⟩
  intro target htarget
  have hframe := Nested.hasFrame_of_target htarget hid
  rw [h.update_eq htarget]
  refine ⟨?_, ?_, rfl⟩
  · intro reader hexposes
    have hfind := h.find?_setLocal_of_exposes hexposes v
    refine ⟨hfind, ?_⟩
    intro ev
    unfold Eval.readVariable
    simp only [Eval.run_get_bind, hfind]
    rfl
  · intro reader other hhidden
    exact ⟨h.find?_setLocal_of_not_exposes hframe hhidden v,
      missingPolicy_setLocal target name v reader⟩

/-- From inside a call, an assignment to its parameter. The frame beside the call goes on reading
the variable of the root that has the same name. -/
theorem Nested.update_exposed_parameter :
    let perform (world : World) (move : Move) : World := Eval.worldAfter
      (move.perform (Eval.evaluatorUntil Eval.never 10 10) { world with trace := .empty })
    let spec : LambdaList Node := .ofList [⟨"x", .mandatory, none, none, false, false, false⟩]
    let world :=
      perform (perform (perform (perform (.initial .raise) (.setLocal World.root "x" (.int 1)))
      (.evaluation (.frame World.root World.root ⟨spec, [.missing]⟩))) (.newChild ⟨1⟩))
        (.newChild World.root)
    let after := world.update .nearest ⟨2⟩ "x" (.int 2)
    world.find? ⟨2⟩ "x" = some (.value .nil) ∧ after.find? ⟨2⟩ "x" = some (.value (.int 2)) ∧
    after.find? ⟨3⟩ "x" = world.find? ⟨3⟩ "x" ∧ world.find? ⟨3⟩ "x" = some (.value (.int 1)) := by
  intro perform spec world after
  have hspec : spec.Accepted := accepted_of_parse
    (show (LambdaList.parse ["x"] : Except Cause (LambdaList Node)) = .ok spec from rfl)
  have harguments : BoundArguments.All Node.Proper ⟨spec, [.missing]⟩ := by
    simp [BoundArguments.All, LambdaParts.defaults, Bound.nodes, spec]
  have hreached : ReachedBy 10 .raise (fun world move => move.Refers world) world :=
    .move _ _ _ _ (.move _ _ _ _ (.move _ _ _ _ (.move _ _ _ _ .start trivial)
      ⟨⟨_, rfl⟩, ⟨_, rfl⟩, harguments, hspec⟩) ⟨_, rfl⟩) ⟨_, rfl⟩
  have hnested := hreached.wellFormed.frames
  have hexposes : world.Exposes ⟨2⟩ ⟨1⟩ "x" := by
    refine ⟨[⟨2⟩], [World.root], hnested.outward (show world.frame? ⟨2⟩ = some _ from rfl), ?_⟩
    intro other hother
    obtain rfl := List.mem_singleton.mp hother
    exact (hnested.not_binds_iff _ _).mpr rfl
  have htarget : world.Target .nearest ⟨2⟩ "x" ⟨1⟩ :=
    .inl ⟨hexposes, (hnested.bindsLocally_iff _ _).mp rfl⟩
  have hbeside : ¬world.Exposes ⟨3⟩ ⟨1⟩ "x" := by
    rintro ⟨near, far, hwalk, -⟩
    have hmem : (⟨1⟩ : FrameId) ∈ world.chain ⟨3⟩ := by
      rw [← hnested.eq_chain hwalk]
      simp
    exact absurd hmem (show ⟨1⟩ ∉ [(⟨3⟩ : FrameId), World.root] by decide)
  obtain ⟨hseen, hunseen, -⟩ :=
    (hnested.update_exposed .nearest ⟨_, rfl⟩ "x" (.int 2)).2 ⟨1⟩ htarget
  exact ⟨rfl, (hseen ⟨2⟩ hexposes).1, (hunseen ⟨3⟩ "x" fun hboth => hbeside hboth.2).1, rfl⟩

end World

end LispEngine
