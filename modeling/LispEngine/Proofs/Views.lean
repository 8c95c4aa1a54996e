import LispEngine.Proofs.Assignments
import LispEngine.Proofs.Parameters
import Mathlib.Data.String.Basic

/-!
# Views of an environment

A frame is asked what a name stands for, whether it binds the name, and which names it binds. The
first two go by the places of parameters, and the third goes through the parameters themselves. They
agree in every frame, also in the frame of a call that is not filled yet, and so do the views of
whole chains that are made of them.
-/

namespace LispEngine

/-! ## What a name stands for in a frame -/

/-- What a frame gives for a name: its variable, or else what the slot of the parameter of that name
holds, or else the record of supply that has that name. -/
inductive Frame.Gives (frame : Frame) (name : String) : Found → Prop where
  | own {v : Value} (found : frame.locals.find? name = some v) : Gives frame name (.value v)
  | slot {call : CallSlots} {index : Nat} {p : Parameter Node} {slot : Slot} {found : Found}
      (notOwn : frame.locals.find? name = none) (isCall : frame.call = some call)
      (declared : call.spec.parameters[index]? = some p) (named : p.name = name)
      (held : call.slots[index]? = some slot) (filled : slot.found? = some found) :
      Gives frame name found
  | record {call : CallSlots} {index : Nat} {p : Parameter Node} {supplied : Bool}
      (notOwn : frame.locals.find? name = none) (isCall : frame.call = some call)
      (noSlot : ∀ (index : Nat) (p : Parameter Node), call.spec.parameters[index]? = some p →
        p.name = name → call.slots[index]? = some .unset)
      (declared : call.spec.parameters[index]? = some p) (named : p.suppliedFlag = some name)
      (recorded : call.supplied[index]? = some (some supplied)) :
      Gives frame name (.value (.bool supplied))

theorem Slot.found?_eq_none_iff {slot : Slot} : slot.found? = none ↔ slot = .unset := by
  cases slot with
  | unset => simp [Slot.found?]
  | ready v => simp [Slot.found?]
  | deferred thunk => simp [Slot.found?]

namespace CallSlots

variable {call : CallSlots} {name : String} {found : Found}

private theorem slot?_eq_none_iff (h : call.Fits) : call.slot? name = none ↔
    ∀ (index : Nat) (p : Parameter Node), call.spec.parameters[index]? = some p → p.name = name →
      call.slots[index]? = some .unset := by
  have hindexed := h.accepted.orderly.indexed
  constructor
  · intro hnone index p hp hname
    have hlt : index < call.slots.length := by
      rw [h.slots]
      exact (List.getElem?_eq_some_iff.mp hp).1
    have hslot := List.getElem?_eq_getElem hlt
    rw [hslot, Option.some_inj, ← Slot.found?_eq_none_iff, Option.eq_none_iff_forall_ne_some]
    intro found hheld
    have hfound := (slot?_eq_some_iff hindexed).mpr ⟨index, p, _, hp, hname, hslot, hheld⟩
    rw [hnone] at hfound
    cases hfound
  · intro hunset
    rw [Option.eq_none_iff_forall_ne_some]
    intro found hfound
    obtain ⟨index, p, slot, hp, hname, hslot, hheld⟩ := (slot?_eq_some_iff hindexed).mp hfound
    rw [hunset index p hp hname] at hslot
    obtain rfl := Option.some.inj hslot
    cases hheld

end CallSlots

theorem Frame.find?_eq_some_iff {frame : Frame} (hcall : ∀ call, frame.call = some call → call.Fits)
    {name : String} {found : Found} : frame.find? name = some found ↔ frame.Gives name found := by
  unfold find?
  cases hlocal : frame.locals.find? name with
  | some v =>
      constructor
      · rintro ⟨⟩
        exact .own hlocal
      · intro hgives
        cases hgives with
        | own hown =>
            rw [hlocal] at hown
            cases hown
            rfl
        | slot hnone => simp [hlocal] at hnone
        | record hnone => simp [hlocal] at hnone
  | none =>
      constructor
      · intro hfound
        obtain ⟨call, hframe, hfound⟩ := Option.bind_eq_some_iff.mp hfound
        have hfits := hcall call hframe
        have hindexed := hfits.accepted.orderly.indexed
        rcases Option.or_eq_some_iff.mp hfound with hslot | ⟨hnone, hflag⟩
        · obtain ⟨index, p, slot, hp, hname, hheld, hfilled⟩ :=
            (CallSlots.slot?_eq_some_iff hindexed).mp hslot
          exact .slot hlocal hframe hp hname hheld hfilled
        · obtain ⟨index, p, supplied, hp, hname, hrecorded, rfl⟩ :=
            (CallSlots.flag?_eq_some_iff hindexed).mp hflag
          exact .record hlocal hframe ((CallSlots.slot?_eq_none_iff hfits).mp hnone) hp hname
            hrecorded
      · intro hgives
        cases hgives with
        | own hown => simp [hlocal] at hown
        | slot _ hframe hp hname hheld hfilled =>
            have hindexed := (hcall _ hframe).accepted.orderly.indexed
            have hslot := (CallSlots.slot?_eq_some_iff hindexed).mpr
              ⟨_, _, _, hp, hname, hheld, hfilled⟩
            simp [hframe, CallSlots.find?, hslot]
        | record _ hframe hnone hp hname hrecorded =>
            have hfits := hcall _ hframe
            have hflag := (CallSlots.flag?_eq_some_iff hfits.accepted.orderly.indexed).mpr
              ⟨_, _, _, hp, hname, hrecorded, rfl⟩
            have hslot := (CallSlots.slot?_eq_none_iff hfits).mpr hnone
            simp [hframe, CallSlots.find?, hslot, hflag]

/-! ## The names of a frame -/

/-- A parameter shows a name: its own if its slot is filled, and that of its supply record if there
is one. -/
def Parameter.Shows (p : Parameter Node) (slot : Slot) (supplied : Option Bool) (name : String) :
    Prop :=
  (p.name = name ∧ slot.isSet = true) ∨ p.suppliedFlag = some name ∧ ∃ flag, supplied = some flag

namespace CallSlots

private theorem mem_namesOf {name : String} {ps : List (Parameter Node)} {slots : List Slot}
    {flags : List (Option Bool)} :
    name ∈ namesOf ps slots flags ↔ ∃ (index : Nat) (p : Parameter Node) (slot : Slot)
      (supplied : Option Bool), ps[index]? = some p ∧ slots[index]? = some slot ∧
        flags[index]? = some supplied ∧ p.Shows slot supplied name := by
  fun_induction namesOf ps slots flags with
  | case1 p ps slot slots supplied flags ih =>
      have hfirst : name ∈ (if slot.isSet then [p.name] else []) ++
          (if supplied.isSome then p.suppliedFlag.toList else []) ↔ p.Shows slot supplied name := by
        cases hset : slot.isSet <;> cases supplied <;> simp [Parameter.Shows, hset, eq_comm]
      rw [List.mem_append, hfirst, ih]
      constructor
      · rintro (hshows | ⟨index, other, held, recorded, hp, hslot, hflag, hshows⟩)
        · exact ⟨0, p, slot, supplied, rfl, rfl, rfl, hshows⟩
        · exact ⟨index + 1, other, held, recorded, hp, hslot, hflag, hshows⟩
      · rintro ⟨index, other, held, recorded, hp, hslot, hflag, hshows⟩
        cases index with
        | zero =>
            cases hp
            cases hslot
            cases hflag
            exact .inl hshows
        | succ index => exact .inr ⟨index, other, held, recorded, hp, hslot, hflag, hshows⟩
  | case2 ps slots flags hshort =>
      simp only [List.not_mem_nil, false_iff]
      rintro ⟨index, p, slot, supplied, hp, hslot, hflag, -⟩
      cases ps with
      | nil => simp at hp
      | cons q ps =>
          cases slots with
          | nil => simp at hslot
          | cons held slots =>
              cases flags with
              | nil => simp at hflag
              | cons recorded flags => exact hshort q ps held slots recorded flags rfl rfl rfl

end CallSlots

theorem Frame.mem_names_iff {frame : Frame} (hcall : ∀ call, frame.call = some call → call.Fits)
    {name : String} : name ∈ frame.names ↔ frame.Binds name := by
  unfold names
  cases hframe : frame.call with
  | none =>
      rw [List.append_nil, Bindings.mem_names_iff]
      constructor
      · rintro ⟨v, hv⟩
        exact .own hv
      · intro hbinds
        cases hbinds with
        | own hown => exact ⟨_, hown⟩
        | slot hsome => simp [hframe] at hsome
        | record hsome => simp [hframe] at hsome
  | some call =>
      have hfits := hcall call hframe
      have hheld {index : Nat} {p : Parameter Node} (hp : call.spec.parameters[index]? = some p) :
          (∃ slot, call.slots[index]? = some slot) ∧
            ∃ supplied, call.supplied[index]? = some supplied := by
        have hlt : index < call.spec.size := (List.getElem?_eq_some_iff.mp hp).1
        exact ⟨⟨_, List.getElem?_eq_getElem (hfits.slots ▸ hlt)⟩,
          ⟨_, List.getElem?_eq_getElem (hfits.supplied ▸ hlt)⟩⟩
      change name ∈ frame.locals.names ++
        CallSlots.namesOf call.spec.parameters call.slots call.supplied ↔ _
      rw [List.mem_append, Bindings.mem_names_iff, CallSlots.mem_namesOf]
      constructor
      · rintro (⟨v, hv⟩ | ⟨index, p, slot, supplied, hp, hslot, hflag, hshows⟩)
        · exact .own hv
        · rcases hshows with ⟨hname, hset⟩ | ⟨hname, flag, rfl⟩
          · exact .slot hframe hp hname hslot hset
          · exact .record hframe hp hname hflag
      · intro hbinds
        cases hbinds with
        | own hown => exact .inl ⟨_, hown⟩
        | slot hsome hp hname hslot hset =>
            obtain rfl := Option.some.inj (hframe.symm.trans hsome)
            obtain ⟨-, supplied, hsupplied⟩ := hheld hp
            exact .inr ⟨_, _, _, _, hp, hslot, hsupplied, .inl ⟨hname, hset⟩⟩
        | record hsome hp hname hflag =>
            obtain rfl := Option.some.inj (hframe.symm.trans hsome)
            obtain ⟨⟨slot, hslot⟩, -⟩ := hheld hp
            exact .inr ⟨_, _, _, _, hp, hslot, hflag, .inr ⟨hname, _, rfl⟩⟩

/-! ## Lists of names -/

namespace World

theorem pairwise_sorted (names : List String) : (sorted names).Pairwise (· ≤ ·) := by
  have hsorted :
      (names.mergeSort fun a b => decide (a ≤ b)).Pairwise fun a b => decide (a ≤ b) = true :=
    List.pairwise_mergeSort (by simpa using fun a b c => le_trans) (by simpa using le_total) names
  simpa [sorted] using hsorted

theorem mem_distinct {name : String} (names : List String) :
    name ∈ distinct names ↔ name ∈ names := by
  fun_induction distinct names with
  | case1 a rest ih => simp [ih]
  | case2 a b rest hne ih => simp [ih]
  | case3 short hshort => rfl

theorem pairwise_distinct {names : List String} (h : names.Pairwise (· ≤ ·)) :
    (distinct names).Pairwise (· < ·) := by
  fun_induction distinct names with
  | case1 a rest ih => exact ih (List.pairwise_cons.mp h).2
  | case2 a b rest hne ih =>
      obtain ⟨hfirst, hrest⟩ := List.pairwise_cons.mp h
      refine List.pairwise_cons.mpr ⟨?_, ih hrest⟩
      intro name hname
      have hb : a < b := lt_of_le_of_ne (hfirst b (by simp)) hne
      rcases List.mem_cons.mp ((mem_distinct _).mp hname) with rfl | hlater
      · exact hb
      · exact lt_of_lt_of_le hb ((List.pairwise_cons.mp hrest).1 name hlater)
  | case3 short hshort =>
      rcases short with _ | ⟨a, _ | ⟨b, rest⟩⟩
      · exact .nil
      · exact List.pairwise_singleton _ a
      · exact (hshort a b rest rfl).elim

/-! ## Chains -/

variable {world : World}

namespace Nested

variable (h : world.Nested)

include h

private theorem mem_localNames_iff (id : FrameId) (name : String) :
    name ∈ world.localNames id ↔ world.Binds id name := by
  unfold localNames Binds
  cases hframe : world.frame? id with
  | none => simp
  | some frame => simpa using Frame.mem_names_iff (h id frame hframe).call

theorem contains_iff (id : FrameId) (name : String) :
    world.contains id name = true ↔ ∃ other ∈ world.chain id, world.Binds other name := by
  simp only [contains, List.any_eq_true, h.bindsLocally_iff]

private theorem mem_matchingNames_iff (id : FrameId) (stem name : String) :
    name ∈ world.matchingNames id stem ↔
      stem.toList <+: name.toList ∧ world.contains id name = true := by
  simp only [matchingNames, mem_distinct, sorted, List.mem_mergeSort, List.mem_filter,
    List.mem_flatMap, h.mem_localNames_iff, h.contains_iff, List.isPrefixOf_iff_prefix]
  exact and_comm

private theorem find?_of_contains {id : FrameId} {name : String}
    (hcontains : world.contains id name = true) :
    ∃ near target far frame found, world.chain id = near ++ target :: far ∧
      (∀ other ∈ near, world.bindsLocally name other = false) ∧
      world.bindsLocally name target = true ∧ world.frame? target = some frame ∧
      frame.Gives name found ∧ world.find? id name = some found := by
  have hsome : ((world.chain id).findSome? (world.localFind? name)).isSome = true := by
    simpa [contains, bindsLocally_eq] using hcontains
  obtain ⟨found, hfound⟩ := Option.isSome_iff_exists.mp hsome
  obtain ⟨near, target, far, hchain, htarget, hnear⟩ := List.findSome?_eq_some_iff.mp hfound
  obtain ⟨frame, hframe, hgives⟩ := Option.bind_eq_some_iff.mp htarget
  refine ⟨near, target, far, frame, found, hchain, ?_, ?_, hframe, ?_, hfound⟩
  · intro other hother
    rw [bindsLocally_eq, hnear other hother]
    rfl
  · rw [bindsLocally_eq, htarget]
    rfl
  · exact (Frame.find?_eq_some_iff (h target frame hframe).call).mp hgives

end Nested

private theorem find?_of_not_contains {id : FrameId} {name : String}
    (hcontains : world.contains id name = false) : world.find? id name = none := by
  rw [find?, List.findSome?_eq_none_iff]
  intro other hother
  rw [contains, List.any_eq_false] at hcontains
  have hbinds := hcontains other hother
  rw [bindsLocally_eq] at hbinds
  simpa using hbinds

/-- In every reachable world, a frame contains a name if and only if the name stands for something
in a frame of the walk outwards. It then reads as the nearest frame gives it that binds the name, be
it that a deferred argument fails, and otherwise as the policy for missing variables has it. The
names with a given beginning that the frame contains are listed in ascending order, each once. -/
theorem ReachedBy.views_agree {limit : Nat} {missing : MissingPolicy}
    (h : ReachedBy limit missing (fun world move => move.Refers world) world) {id : FrameId}
    {frame : Frame} (hframe : world.frame? id = some frame) (name stem : String) :
    world.Outward id (world.chain id) ∧
    (∀ other, world.bindsLocally name other = true ↔ world.Binds other name) ∧
    (world.contains id name = true ↔
      ∃ other ∈ world.chain id, (world.localFind? name other).isSome = true) ∧
    (world.contains id name = true → ∃ near target far nearest found,
      world.chain id = near ++ target :: far ∧
      (∀ other ∈ near, world.bindsLocally name other = false) ∧
      world.bindsLocally name target = true ∧ world.frame? target = some nearest ∧
      nearest.Gives name found ∧
      ∀ ev, Eval.readVariable ev id name world = found.read ev world) ∧
    (world.contains id name = false →
      (frame.missing = .nil → ∀ ev, Eval.readVariable ev id name world = .ok .nil world) ∧
      (frame.missing = .raise → ∀ ev, Eval.readVariable ev id name world =
        .error (.failed (.of (.unbound name))) world)) ∧
    (world.matchingNames id stem).Pairwise (· < ·) ∧
    ∀ other, other ∈ world.matchingNames id stem ↔
      stem.toList <+: other.toList ∧ world.contains id other = true := by
  have hnested := h.wellFormed.frames
  refine ⟨hnested.outward hframe, fun other => hnested.bindsLocally_iff other name, ?_, ?_, ?_,
    pairwise_distinct (pairwise_sorted _), hnested.mem_matchingNames_iff id stem⟩
  · simp only [contains, List.any_eq_true, bindsLocally_eq]
  · intro hcontains
    obtain ⟨near, target, far, nearest, found, hchain, hnear, htarget, hnearest, hgives, hfound⟩ :=
      hnested.find?_of_contains hcontains
    exact ⟨near, target, far, nearest, found, hchain, hnear, htarget, hnearest, hgives,
      Eval.readVariable_eq hfound⟩
  · intro hcontains
    have hnone := find?_of_not_contains hcontains
    have hpolicy : world.missingPolicy id = frame.missing := by rw [missingPolicy, hframe]
    constructor
    · intro hnil ev
      unfold Eval.readVariable
      simp only [Eval.run_get_bind, hnone, hpolicy, hnil]
      rfl
    · intro hraise ev
      unfold Eval.readVariable
      simp only [Eval.run_get_bind, hnone, hpolicy, hraise]
      rfl

/-- The frame of a call whose second parameter is having its default evaluated, and has the name
under which the supply of the first one is recorded. -/
theorem ReachedBy.views_agree_unfinished :
    let default : Node := .ofValue (.int 1) (some .start)
    let spec : LambdaList Node := .ofList [⟨"a", .optional, none, some "b", false, false, false⟩,
      ⟨"b", .optional, some default, none, false, false, false⟩]
    let world := Eval.worldAfter ((Move.evaluation (.frame World.root World.root
      ⟨spec, [.missing, .missing]⟩)).perform
        (Eval.evaluatorUntil (fun world => world.trace.size == 1) 10 10)
        { World.initial .raise with trace := .empty })
    world.trace.size = 1 ∧ world.find? ⟨1⟩ "b" = some (.value (.bool false)) ∧
    (∃ nearest found, Frame.Gives nearest "b" found ∧
      ∀ ev, Eval.readVariable ev ⟨1⟩ "b" world = found.read ev world) ∧
    "b" ∈ world.matchingNames ⟨1⟩ "" := by
  intro default spec world
  have hoptional : Marker.ofText? "&OPTIONAL" = some .optional := by decide +kernel
  have hread : (LambdaList.ofTokens [.marker "&OPTIONAL", .compound "a" none (some "b"),
      .compound "b" (some default) none] : Except Cause (LambdaList Node)) = .ok spec := by
    simp only [LambdaList.ofTokens, LambdaReader.takeAll, LambdaReader.take,
      LambdaReader.takeMarker, hoptional]
    rfl
  have hspec : spec.Accepted := .read hread
  have harguments : BoundArguments.All Node.Proper ⟨spec, [.missing, .missing]⟩ := by
    refine ⟨?_, by simp [Bound.nodes]⟩
    intro node hnode
    obtain rfl : node = default := by simpa [LambdaParts.defaults, spec] using hnode
    exact .ofValue trivial _
  have hreached : ReachedBy 10 .raise (fun world move => move.Refers world) world :=
    .move _ _ _ _ .start ⟨⟨_, rfl⟩, ⟨_, rfl⟩, harguments, hspec⟩
  have hcontains : world.contains ⟨1⟩ "b" = true := rfl
  obtain ⟨-, -, -, hnearest, -, -, hnames⟩ :=
    hreached.views_agree (show world.frame? ⟨1⟩ = some _ from rfl) "b" ""
  refine ⟨rfl, rfl, ?_, (hnames "b").mpr ⟨List.nil_prefix, hcontains⟩⟩
  obtain ⟨_, _, _, nearest, found, -, -, -, -, hgives, hvalue⟩ := hnearest hcontains
  exact ⟨nearest, found, hgives, hvalue⟩

end World

end LispEngine
