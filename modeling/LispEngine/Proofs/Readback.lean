import LispEngine.Proofs.Parameters
import LispEngine.Proofs.Transport
import LispEngine.Proofs.WellFormed

/-!
# Arguments of native functions and of closures

A native function is given the values of its arguments as a list. A closure finds them under the
names of its parameters, in a frame that is there before the first argument is evaluated and that is
filled one slot at a time. For parameters that are eager and have no defaults the two are the same:
the argument expressions are evaluated in the same order and with the same effects, none of them
sees the unfinished frame, and the names read as the values. Only an embedding program that looks at
the frames in backtraces could tell that there is one more of them.
-/

namespace LispEngine

def Definitions.Discreet (defs : Definitions) : Prop :=
  ∀ callable ∈ defs.functions, callable.Discreet

/-- No part of the embedding program that a world can run looks at the frames in backtraces. -/
structure World.Discreet (world : World) : Prop where
  thunks : ∀ node scope, .pending node scope ∈ world.thunks → node.Discreet
  functions : world.defs.Discreet
  sites : ∀ call, some call ∈ world.sites → call.arguments.All Node.Discreet

theorem World.WellFormed.grounded {world : World} (h : world.WellFormed)
    (hdiscreet : world.Discreet) :
    world.Grounded world.frames.size where
  known := Nat.le_refl _
  frames := h.frames.descending
  thunks node scope hthunk :=
    ⟨hdiscreet.thunks node scope hthunk, (h.thunks node scope hthunk).2.lt_size⟩
  functions callable hcallable := ⟨hdiscreet.functions callable hcallable,
    fun closure hclosure => ((h.functions callable hcallable).scope closure hclosure).lt_size⟩
  sites := hdiscreet.sites

namespace Definitions.Discreet

variable {defs : Definitions} (h : defs.Discreet)

include h

theorem install (name : String) (entry : Entry) : (defs.install name entry).Discreet := h

theorem addPrimitive (p : Primitive) : (defs.addPrimitive p).Discreet := by
  unfold Definitions.addPrimitive
  split
  · rename_i spec hparse
    have hread := LambdaReader.parse_reads (N := Node.Discreet) p.parameters
    rw [hparse] at hread
    intro callable hcallable
    rcases Array.mem_push.mp hcallable with hold | rfl
    · exact h callable hold
    · refine ⟨hread, ?_⟩
      rintro _ ⟨⟩
      trivial
  · exact h

end Definitions.Discreet

theorem Definitions.initial_discreet : Definitions.initial.Discreet := by
  have hempty : empty.Discreet := by simp [Discreet, empty]
  have hforms : (SpecialForm.all.foldl addSpecialForm empty).Discreet :=
    List.foldlRecOn _ _ hempty fun _ h form _ => h.install form.name _
  have hexpressions := List.foldlRecOn SpecialExpression.all addSpecialExpression hforms
    fun _ h expression _ => h.install expression.name _
  exact List.foldlRecOn _ _ hexpressions fun _ h p _ => h.addPrimitive p

theorem World.initial_discreet (missing : MissingPolicy) : (World.initial missing).Discreet where
  thunks := by simp [initial]
  functions := Definitions.initial_discreet
  sites := by simp [initial]

/-! ## Frames that hold values -/

structure CallSlots.FilledWith (spec : LambdaList Node) (vs : List Value) (call : CallSlots) :
    Prop where
  isFor : call.spec = spec
  size : call.slots.length = spec.size
  slot (index : Nat) (v : Value) : vs[index]? = some v → call.slots[index]? = some (.ready v)

structure Frame.FilledWith (spec : LambdaList Node) (vs : List Value) (frame : Frame) : Prop where
  unassigned : frame.locals = []
  call : ∃ call, frame.call = some call ∧ call.FilledWith spec vs

variable {spec : LambdaList Node} {vs : List Value}

theorem CallSlots.FilledWith.fill {call : CallSlots} (h : call.FilledWith spec vs)
    (hroom : vs.length < spec.size) (v : Value) (supplied : Bool) :
    (call.fill vs.length (.ready v) supplied).FilledWith spec (vs ++ [v]) where
  isFor := h.isFor
  size := by simpa [CallSlots.fill] using h.size
  slot := by
    intro index w hw
    have hlength := h.size
    rcases Nat.lt_trichotomy index vs.length with hlt | rfl | hgt
    · rw [List.getElem?_append_left hlt] at hw
      simpa [CallSlots.fill, Nat.ne_of_gt hlt] using h.slot index w hw
    · obtain rfl : v = w := by simpa using hw
      simp only [CallSlots.fill]
      rw [List.getElem?_set_self (by omega)]
    · rw [List.getElem?_eq_none (by simp; omega)] at hw
      cases hw

theorem Frame.FilledWith.fillSlot {frame : Frame} (h : frame.FilledWith spec vs)
    (hroom : vs.length < spec.size) (v : Value) (supplied : Bool) :
    (frame.fillSlot vs.length (.ready v) supplied).FilledWith spec (vs ++ [v]) := by
  obtain ⟨call, hcall, hholds⟩ := h.call
  refine ⟨h.unassigned, _, ?_, hholds.fill hroom v supplied⟩
  rw [Frame.fillSlot, hcall]
  rfl

namespace Eval

/-! ## Filling -/

theorem parameterSlot_eq {p : Parameter Node} (heager : p.isLazy = false)
    (hdefault : p.default = none) {bound : Bound} (hsuits : p.Suits bound) (ev : Evaluator)
    (caller frame : FrameId) :
    parameterSlot ev caller frame p bound =
      (do return (.ready (← argumentValue ev caller bound), bound.isSupplied)) := by
  cases bound with
  | missing =>
      have hrole : (p.role == .rest) = false := beq_eq_false_iff_ne.mpr hsuits.role_ne
      simp [parameterSlot, defaultValue, hdefault, hrole, argumentValue, Bound.isSupplied]
  | single node => simp [parameterSlot, heager, argumentValue, Bound.isSupplied]
  | rest nodes => simp [parameterSlot, argumentValue, Bound.isSupplied]

variable {mark count : Nat} {caller : FrameId}

/-- One side collects the values of the arguments, the other one fills them in the frame at the
mark. -/
theorem fillSlots_collects (limit fuel : Nat) (hcaller : caller.index < count)
    (hold : caller.index < mark) {ps : List (Parameter Node)} {bounds : List Bound}
    (hplain : ∀ p ∈ ps, p.isLazy = false ∧ p.default = none)
    (hsuits : List.Forall₂ Parameter.Suits ps bounds)
    (hdiscreet : ∀ bound ∈ bounds, ∀ node ∈ bound.nodes, node.Discreet)
    {earlier : List Value} (hroom : earlier.length + ps.length ≤ spec.size)
    {spare : Frame} (hspare : spare.FilledWith spec earlier)
    {world twin : World} (hshifted : world.Shifted mark spare count twin) :
    Tracked mark
      (fun vs _ after other => ∃ ws spare, AllNear mark vs ws ∧ ws.length = ps.length ∧
        spare.FilledWith spec (earlier ++ ws) ∧ after.Displaced mark spare other)
      (fun after other => ∃ spare, after.Displaced mark spare other)
      (argumentValues (evaluator limit fuel) caller bounds world)
      (fillSlots (evaluator limit fuel) caller ⟨mark⟩ earlier.length ps bounds twin) := by
  induction hsuits generalizing earlier spare world twin with
  | nil => exact .ok ⟨[], spare, rfl, rfl, by simpa using hspare, hshifted.displaced⟩
  | @cons p bound ps bounds hsuit hsuits ih =>
      obtain ⟨⟨heager, hdefault⟩, hplain⟩ := List.forall_mem_cons.mp hplain
      obtain ⟨hbound, hdiscreet⟩ := List.forall_mem_cons.mp hdiscreet
      simp only [List.length_cons] at hroom
      rw [fillSlots_cons_eq, parameterSlot_eq heager hdefault hsuit]
      simp only [bind_assoc, pure_bind]
      have hvalue :=
        argumentValue_tracks (evaluator_tracks mark spare limit fuel) hcaller hbound rfl
        world twin hshifted
      rw [FrameId.displace_of_lt hold] at hvalue
      refine (hvalue.mono (fun _ _ _ _ => id) fun after other hafter =>
        ⟨spare, hafter.displaced⟩).bind ?_
      rintro v w after other ⟨hnear, hafter⟩
      rw [run_modify_bind, ← bind_pure (fillSlots _ _ _ _ ps bounds)]
      have hfilled := hspare.fillSlot (by omega) w bound.isSupplied
      have hnext := hafter.displaced.modifySpare
        (·.fillSlot earlier.length (.ready w) bound.isSupplied)
      have hroom : (earlier ++ [w]).length + ps.length ≤ spec.size := by
        simp only [List.length_append, List.length_singleton]
        omega
      have hrest := ih hplain hdiscreet hroom hfilled ⟨hafter.grounded, hnext⟩
      rw [List.length_append] at hrest
      refine hrest.bind ?_
      rintro vs _ last final ⟨ws, filled, hnears, hlength, hholds, hlast⟩
      refine .ok ⟨w :: ws, filled, ?_, ?_, ?_, hlast⟩
      · simp [AllNear, AllAlike, hnear, hnears]
      · simp [hlength]
      · simpa using hholds

/-! ## Reading -/

theorem readVariable_filled {frame : Frame} (hfilled : frame.FilledWith spec vs)
    (hspec : spec.Indexed) {world : World} {id : FrameId} (hframe : world.frame? id = some frame)
    {index : Nat} {p : Parameter Node} (hp : spec.parameters[index]? = some p) {v : Value}
    (hv : vs[index]? = some v) (ev : Evaluator) :
    readVariable ev id p.name world = .ok v world := by
  obtain ⟨call, hcall, hslots⟩ := hfilled.call
  obtain rfl := hslots.isFor
  have hslot : world.call? id = some call := by
    rw [World.call?, hframe, Option.bind_some, hcall]
  have hassigned : world.assigned? id p.name = none := by
    rw [World.assigned?, hframe, Option.bind_some, hfilled.unassigned]
    rfl
  have hfound := CallSlots.find?_name hspec hp (hslots.slot index v hv) rfl
  rw [readVariable_eq (World.find?_of_call hslot hassigned hfound)]
  rfl

private theorem mapM_eq_ok {α β : Type} {action : α → Eval β} {world : World} {items : List α}
    {results : List β} (h : List.Forall₂ (fun a b => action a world = .ok b world) items results) :
    items.mapM action world = .ok results world := by
  induction h with
  | nil => rfl
  | cons hfirst _ ih =>
      rw [List.mapM_cons, bind_eq_ok_iff]
      exact ⟨_, _, hfirst, bind_eq_ok_iff.mpr ⟨_, _, ih, rfl⟩⟩

private theorem readNames_filled {frame : Frame} (hfilled : frame.FilledWith spec vs)
    (hspec : spec.Indexed) (hlength : vs.length = spec.parameters.length) {world : World}
    {id : FrameId} (hframe : world.frame? id = some frame) (ev : Evaluator) :
    spec.names.mapM (readVariable ev id) world = .ok vs world := by
  apply mapM_eq_ok
  rw [List.forall₂_iff_get]
  refine ⟨by simp [LambdaList.names, hlength], ?_⟩
  intro index hname hv
  have hp : index < spec.parameters.length := by omega
  simp only [LambdaList.names, List.get_eq_getElem, List.getElem_map]
  exact readVariable_filled hfilled hspec hframe (List.getElem?_eq_getElem hp)
    (List.getElem?_eq_getElem hv) ev

def parameterValues (ev : Evaluator) (caller defining : FrameId) (arguments : BoundArguments) :
    Eval (List Value) := do
  let frame ← callFrame ev caller defining arguments
  arguments.spec.names.mapM (readVariable ev frame)

private theorem unfilled_filledWith (spec : LambdaList Node) (missing : MissingPolicy)
    (parent : FrameId) :
    Frame.FilledWith spec []
      { Frame.root missing with parent := some parent, call := some (.unfilled spec) } :=
  ⟨rfl, _, rfl, rfl, by simp [CallSlots.unfilled], by simp⟩

/-- Collecting the values of the arguments of a call and reading the parameters in its new frame
give the same values in the same order, or stop with the same failure or return. The worlds that
they leave are the same but for the new frame: all older frames keep their numbers, those made by
the arguments have numbers that are greater by one, and backtraces are compared up to these. -/
theorem argumentValues_parameterValues {world : World} (hworld : world.WellFormed)
    (hdiscreet : world.Discreet) {caller : FrameId} (hcaller : world.HasFrame caller)
    (defining : FrameId) {spec : LambdaList Node} (hspec : spec.Accepted)
    (hplain : ∀ p ∈ spec.parameters, p.isLazy = false ∧ p.default = none) {nodes : List Node}
    (hnodes : ∀ node ∈ nodes, node.Discreet) {arguments : BoundArguments}
    (hbind : bindArguments spec nodes = .ok arguments) (limit fuel : Nat) :
    let mark := world.frames.size
    Tracked mark
      (fun vs ws after other => AllNear mark vs ws ∧ ∃ frame, after.Displaced mark frame other)
      (fun after other => ∃ frame, after.Displaced mark frame other)
      (argumentValues (evaluator limit fuel) caller arguments.bound world)
      (parameterValues (evaluator limit fuel) caller defining arguments world) := by
  intro mark
  have hold : caller.index < mark := hcaller.lt_size
  have hgrounded := hworld.grounded hdiscreet
  have hsupplied := bindArguments_supplies hbind hnodes
  obtain ⟨keywords, -, -, rfl⟩ := bindArguments_eq_ok hbind
  have hsuits := distribute_suits spec.parameters (.cut spec nodes keywords)
  have hempty := unfilled_filledWith spec (world.missingPolicy defining) defining
  have hdisplaced := hgrounded.displaced_addFrame (by omega)
    { Frame.root (world.missingPolicy defining) with
      parent := some defining, call := some (.unfilled spec) }
  have hcollects := fillSlots_collects limit fuel hold hold hplain hsuits hsupplied
    (by simp [LambdaList.size]) hempty ⟨hgrounded, hdisplaced⟩
  simp only [parameterValues, callFrame, bind_assoc, pure_bind]
  rw [← bind_pure (argumentValues _ _ _)]
  refine hcollects.bind ?_
  rintro vs _ after other ⟨ws, filled, hnears, hlength, hfilled, hafter⟩
  rw [readNames_filled hfilled hspec.orderly.indexed hlength hafter.spare]
  exact .ok ⟨hnears, filled, hafter⟩

/-- The one argument makes a frame of its own, and the other parameters are not supplied. -/
theorem argumentValues_parameterValues_binding :
    let five : Node := .ofValue (.int 5) none
    let readX : Node := ⟨.readVariable "X", "X", some .start⟩
    let node : Node := ⟨.ofForm (.letIn [("X", some five)] [readX]), "LET", some .start⟩
    let spec : LambdaList Node := .ofList [⟨"A", .mandatory, none, none, false, false, false⟩,
      ⟨"B", .rest, none, none, false, false, false⟩,
      ⟨"C", .restThenKeyword, none, none, false, false, false⟩]
    let arguments : BoundArguments := ⟨spec, [.single node, .rest [], .missing]⟩
    let world := World.initial .raise
    world.WellFormed ∧ world.Discreet ∧ spec.Accepted ∧ node.Discreet ∧
    bindArguments spec [node] = .ok arguments ∧
    ∃ vs ws after other frame,
      argumentValues (evaluator 9 9) World.root arguments.bound world = .ok vs after ∧
      parameterValues (evaluator 9 9) World.root World.root arguments world = .ok ws other ∧
      vs.map Value.display = ["5", "()", "nil"] ∧ AllNear world.frames.size vs ws ∧
      after.Displaced world.frames.size frame other := by
  intro five readX node spec arguments world
  have hspec : spec.Accepted := by
    have hrest : Marker.ofText? "&REST" = some .rest := by decide +kernel
    have hkey : Marker.ofText? "&KEY" = some .key := by decide +kernel
    have hread : (LambdaList.ofTokens [.name "A", .marker "&REST", .name "B", .marker "&KEY",
        .name "C"] : Except Cause (LambdaList Node)) = .ok spec := by
      simp only [LambdaList.ofTokens, LambdaReader.takeAll, LambdaReader.take,
        LambdaReader.takeMarker, hrest, hkey]
      rfl
    exact .read hread
  have hnode : node.Discreet := by
    have hfive : five.Discreet := .ofValue trivial none
    have hreadX : readX.Discreet := .ofCode trivial (by simp [CodeOf.children])
    exact .ofCode ⟨_, rfl, trivial⟩
      (by simp [CodeOf.ofForm, CodeOf.children, FormOf.children, hfive, hreadX])
  have hbind : bindArguments spec [node] = .ok arguments := rfl
  have hworld : world.WellFormed := initial_wellFormed .raise
  have hdiscreet : world.Discreet := World.initial_discreet .raise
  have hsame := argumentValues_parameterValues hworld hdiscreet hworld.root World.root hspec
    (by simp [spec]) (by simpa using hnode) hbind 9 9
  have hdisplays :
    (EStateM.run' (argumentValues (evaluator 9 9) World.root arguments.bound) world).map
      (List.map Value.display) = some ["5", "()", "nil"] := by
    decide +kernel
  unfold EStateM.run' EStateM.run at hdisplays
  generalize argumentValues _ _ _ _ = result, parameterValues _ _ _ _ _ = other at hsame hdisplays ⊢
  cases hsame with
  | ok hafter =>
      obtain ⟨hnear, frame, hdisplaced⟩ := hafter
      exact ⟨hworld, hdiscreet, hspec, hnode, hbind, _, _, _, _, frame, rfl, rfl,
        Option.some.inj hdisplays, hnear, hdisplaced⟩
  | error signals hafter => cases hdisplays

end Eval

end LispEngine
