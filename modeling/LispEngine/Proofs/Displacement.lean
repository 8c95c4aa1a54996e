import LispEngine.Proofs.Outlines
import LispEngine.Proofs.Rescoping

/-!
# Displaced worlds

The frame of a call is made before the arguments are evaluated. A native function has no such frame,
so the same evaluations make the same frames with numbers that are smaller by one. A world is
displaced from another one if it has one more frame, at a mark, and is the same otherwise: whatever
refers to a frame behind the mark refers to the next one, and values are alike when frames behind
the mark are not told apart.
-/

namespace LispEngine

namespace FrameId

/-- The frame with one more frame before it, if it is not before the mark. -/
def displace (mark : Nat) (id : FrameId) : FrameId :=
  if id.index < mark then id else ⟨id.index + 1⟩

/-- The frame, if it is before the mark. -/
def blur (mark : Nat) (id : FrameId) : FrameId := if id.index < mark then id else ⟨mark⟩

variable {mark : Nat} {id other : FrameId}

theorem index_displace (mark : Nat) (id : FrameId) :
    (id.displace mark).index = if id.index < mark then id.index else id.index + 1 := by
  unfold displace
  split <;> rfl

theorem displace_of_lt (h : id.index < mark) : id.displace mark = id := if_pos h

theorem displace_inj : id.displace mark = other.displace mark ↔ id = other := by
  cases id
  cases other
  simp only [displace]
  split <;> split <;> simp only [mk.injEq] <;> omega

theorem displace_ne_mark (mark : Nat) (id : FrameId) : id.displace mark ≠ ⟨mark⟩ := by
  cases id
  simp only [displace]
  split <;> simp only [ne_eq, mk.injEq] <;> omega

theorem blur_displace (mark : Nat) (id : FrameId) :
    (id.displace mark).blur mark = id.blur mark := by
  unfold displace blur
  grind

end FrameId

/-! ## Frames -/

variable {f : FrameId → FrameId}

def Slot.rescope (f : FrameId → FrameId) : Slot → Slot
  | .ready v => .ready (v.rescope f)
  | slot => slot

def Found.rescope (f : FrameId → FrameId) : Found → Found
  | .value v => .value (v.rescope f)
  | found => found

def Bindings.rescope (f : FrameId → FrameId) (bindings : Bindings Value) : Bindings Value :=
  bindings.map fun pair => (pair.1, pair.2.rescope f)

def CallSlots.rescope (f : FrameId → FrameId) (call : CallSlots) : CallSlots :=
  { call with slots := call.slots.map (·.rescope f) }

def Frame.rescope (f : FrameId → FrameId) (frame : Frame) : Frame :=
  { frame with locals := frame.locals.rescope f, call := frame.call.map (·.rescope f) }

theorem Slot.found?_rescope (slot : Slot) :
    (slot.rescope f).found? = slot.found?.map (·.rescope f) := by
  cases slot <;> rfl

namespace Bindings

theorem find?_rescope (bindings : Bindings Value) (name : String) :
    (bindings.rescope f).find? name = (bindings.find? name).map (·.rescope f) :=
  lookup_mapValues _ bindings name

theorem rescope_insert (bindings : Bindings Value) (name : String) (v : Value) :
    (bindings.insert name v).rescope f = (bindings.rescope f).insert name (v.rescope f) := by
  induction bindings with
  | nil => rfl
  | cons pair bindings ih =>
      simp only [rescope, insert, List.map_cons] at ih ⊢
      split
      · rfl
      · rw [List.map_cons, ih]

end Bindings

namespace CallSlots

theorem find?_rescope (call : CallSlots) (name : String) :
    (call.rescope f).find? name = (call.find? name).map (·.rescope f) := by
  have hslot : (call.rescope f).slot? name = (call.slot? name).map (·.rescope f) := by
    simp only [slot?, rescope]
    cases call.spec.indexOf? name with
    | none => rfl
    | some index =>
        cases hslot : call.slots[index]? <;> simp [hslot, Slot.found?_rescope]
  have hflag : (call.flag? name).map (·.rescope f) = call.flag? name := by
    simp only [flag?, Option.map_map]
    rfl
  rw [find?, find?, hslot, Option.map_or, hflag]
  rfl

private theorem rescope_fill (call : CallSlots) (index : Nat) (slot : Slot) (supplied : Bool) :
    (call.fill index slot supplied).rescope f =
      (call.rescope f).fill index (slot.rescope f) supplied := by
  simp [fill, rescope]

end CallSlots

namespace Frame

theorem find?_rescope (frame : Frame) (name : String) :
    (frame.rescope f).find? name = (frame.find? name).map (·.rescope f) := by
  simp only [find?, rescope, Bindings.find?_rescope]
  cases frame.locals.find? name with
  | some v => rfl
  | none => cases frame.call <;> simp [CallSlots.find?_rescope]

theorem rescope_set (frame : Frame) (name : String) (v : Value) :
    (frame.set name v).rescope f = (frame.rescope f).set name (v.rescope f) := by
  simp [set, rescope, Bindings.rescope_insert]

theorem rescope_fillSlot (frame : Frame) (index : Nat) (slot : Slot) (supplied : Bool) :
    (frame.fillSlot index slot supplied).rescope f =
      (frame.rescope f).fillSlot index (slot.rescope f) supplied := by
  simp [fillSlot, rescope, Function.comp_def, CallSlots.rescope_fill]

def displace (mark : Nat) (frame : Frame) : Frame :=
  { frame with parent := frame.parent.map (·.displace mark) }

theorem displace_of_parent {mark : Nat} {frame : Frame}
    (h : ∀ parent, frame.parent = some parent → parent.index < mark) :
    frame.displace mark = frame := by
  have hparent : frame.parent.map (·.displace mark) = frame.parent := by
    cases hparent : frame.parent with
    | none => rfl
    | some parent => exact congrArg some (FrameId.displace_of_lt (h parent hparent))
  rw [displace, hparent]

def Resembles (mark : Nat) (frame twin : Frame) : Prop :=
  twin.rescope (·.blur mark) = (frame.displace mark).rescope (·.blur mark)

namespace Resembles

variable {mark : Nat} {frame twin : Frame} (h : frame.Resembles mark twin)

include h

theorem parent : twin.parent = frame.parent.map (·.displace mark) := congrArg Frame.parent h

theorem missing : twin.missing = frame.missing := by
  have hmissing := congrArg Frame.missing h
  exact hmissing

theorem find? (name : String) :
    (twin.find? name).map (·.rescope (·.blur mark)) =
      (frame.find? name).map (·.rescope (·.blur mark)) := by
  have hname := congrArg (Frame.find? · name) h
  rw [find?_rescope, find?_rescope] at hname
  exact hname

theorem set (name : String) {v w : Value} (hvalues : v.Alike (·.blur mark) w) :
    (frame.set name v).Resembles mark (twin.set name w) := by
  have hset := congrArg (Frame.set · name (w.rescope (·.blur mark))) h
  rw [← rescope_set, ← hvalues, ← rescope_set] at hset
  exact hset

theorem fillSlot (index : Nat) {slot other : Slot} (supplied : Bool)
    (hslots : slot.rescope (·.blur mark) = other.rescope (·.blur mark)) :
    (frame.fillSlot index slot supplied).Resembles mark (twin.fillSlot index other supplied) := by
  have hfill := congrArg (Frame.fillSlot · index (other.rescope (·.blur mark)) supplied) h
  rw [← rescope_fillSlot, ← hslots, ← rescope_fillSlot] at hfill
  exact hfill

end Resembles

end Frame

/-! ## Worlds -/

inductive Thunk.Resembles (mark : Nat) : Thunk → Thunk → Prop where
  | pending {node other : Node} (nodes : node.Alike (·.blur mark) other) (scope : FrameId) :
      Resembles mark (.pending node scope) (.pending other (scope.displace mark))
  | forcing : Resembles mark .forcing .forcing
  | done {v w : Value} (values : v.Alike (·.blur mark) w) : Resembles mark (.done v) (.done w)

def Callable.displace (mark : Nat) : Callable → Callable
  | closure c => closure { c with scope := c.scope.displace mark }
  | native n => native n

@[simp] theorem Callable.spec_displace (mark : Nat) (callable : Callable) :
    (callable.displace mark).spec = callable.spec := by
  cases callable <;> rfl

@[simp] theorem Callable.name_displace (mark : Nat) (callable : Callable) :
    (callable.displace mark).name = callable.name := by
  cases callable <;> rfl

@[simp] theorem Callable.doc_displace (mark : Nat) (callable : Callable) :
    (callable.displace mark).doc = callable.doc := by
  cases callable <;> rfl

theorem Callable.displace_of_scope {mark : Nat} {callable : Callable}
    (h : ∀ closure, callable = .closure closure → closure.scope.index < mark) :
    callable.displace mark = callable := by
  cases callable with
  | closure c => rw [displace, FrameId.displace_of_lt (h c rfl)]
  | native n => rfl

/-- The twin has the frames of the world and one more, at the mark. -/
structure World.Displaced (mark : Nat) (spare : Frame) (world twin : World) : Prop where
  root : 0 < mark
  bound : mark ≤ world.frames.size
  size : twin.frames.size = world.frames.size + 1
  spare : twin.frame? ⟨mark⟩ = some spare
  frames (id : FrameId) :
    Option.Rel (Frame.Resembles mark) (world.frame? id) (twin.frame? (id.displace mark))
  thunkCount : twin.thunks.size = world.thunks.size
  thunks (index : Nat) :
    Option.Rel (Thunk.Resembles mark) world.thunks[index]? twin.thunks[index]?
  functions : twin.defs.functions = world.defs.functions.map (·.displace mark)
  table : twin.defs.table = world.defs.table
  sites : twin.sites = world.sites
  errorCount : twin.errorCount = world.errorCount
  trace : twin.trace.rescope (·.blur mark) = world.trace.rescope (·.blur mark)

/-- The frame around a frame is older, all that refers to a frame refers to one that is there, and
the embedding program is discreet. At least `count` frames are there. -/
structure World.Grounded (count : Nat) (world : World) : Prop where
  known : count ≤ world.frames.size
  frames : world.Descending
  thunks : ∀ node scope, .pending node scope ∈ world.thunks →
    node.Discreet ∧ scope.index < world.frames.size
  functions : ∀ callable ∈ world.defs.functions, callable.Discreet ∧
    ∀ closure, callable = .closure closure → closure.scope.index < world.frames.size
  sites : ∀ call, some call ∈ world.sites → call.arguments.All Node.Discreet

namespace World.Displaced

variable {mark : Nat} {spare : Frame} {world twin : World} (h : world.Displaced mark spare twin)

include h

/-! ## Lookups -/

theorem chainWithin_eq (steps : Nat) (id : FrameId) :
    twin.chainWithin steps (id.displace mark) =
      (world.chainWithin steps id).map (·.displace mark) := by
  induction steps generalizing id with
  | zero => rfl
  | succ steps ih =>
      have hframes := h.frames id
      unfold chainWithin
      generalize world.frame? id = found, twin.frame? (id.displace mark) = other at hframes
      cases hframes with
      | none => rfl
      | @some frame other hsame =>
          have hparent := hsame.parent
          cases hold : frame.parent with
          | none => simp [hparent, hold]
          | some parent => simp [hparent, hold, ih]

theorem chain_eq (hdescending : world.Descending) (id : FrameId) :
    twin.chain (id.displace mark) = (world.chain id).map (·.displace mark) := by
  rw [chain, chain, h.chainWithin_eq, FrameId.index_displace]
  split
  · rfl
  · rw [hdescending.chainWithin_eq (Nat.lt_succ_self _) (Nat.le_succ _)]

theorem localFind?_eq (id : FrameId) (name : String) :
    (twin.localFind? name (id.displace mark)).map (·.rescope (·.blur mark)) =
      (world.localFind? name id).map (·.rescope (·.blur mark)) := by
  have hframes := h.frames id
  unfold localFind?
  generalize world.frame? id = found, twin.frame? (id.displace mark) = other at hframes
  cases hframes with
  | none => rfl
  | some hsame => exact hsame.find? name

theorem bindsLocally_eq (id : FrameId) (name : String) :
    twin.bindsLocally name (id.displace mark) = world.bindsLocally name id := by
  have hfound := congrArg Option.isSome (h.localFind?_eq id name)
  rw [Option.isSome_map, Option.isSome_map] at hfound
  rw [World.bindsLocally_eq, World.bindsLocally_eq, hfound]

theorem find?_eq (hdescending : world.Descending) (id : FrameId) (name : String) :
    (twin.find? (id.displace mark) name).map (·.rescope (·.blur mark)) =
      (world.find? id name).map (·.rescope (·.blur mark)) := by
  rw [find?, find?, h.chain_eq hdescending]
  induction world.chain id with
  | nil => rfl
  | cons frame frames ih =>
      have hfound := h.localFind?_eq frame name
      simp only [List.map_cons, List.findSome?_cons]
      cases hold : world.localFind? name frame with
      | none =>
          rw [hold, Option.map_none, Option.map_eq_none_iff] at hfound
          rw [hfound]
          exact ih
      | some found =>
          rw [hold] at hfound
          obtain ⟨other, hother, hsame⟩ := Option.map_eq_some_iff.mp hfound
          rw [hother]
          exact congrArg some hsame

theorem contains_eq (hdescending : world.Descending) (id : FrameId) (name : String) :
    twin.contains (id.displace mark) name = world.contains id name := by
  simp only [contains, h.chain_eq hdescending, List.any_map, Function.comp_def, h.bindsLocally_eq]

theorem binder?_eq (hdescending : world.Descending) (id : FrameId) (name : String) :
    twin.binder? (id.displace mark) name = (world.binder? id name).map (·.displace mark) := by
  simp only [binder?, h.chain_eq hdescending, List.find?_map, Function.comp_def,
    h.bindsLocally_eq]

theorem rootOf_eq (hdescending : world.Descending) (id : FrameId) :
    twin.rootOf (id.displace mark) = (world.rootOf id).displace mark := by
  rw [rootOf, rootOf, h.chain_eq hdescending, List.getLast?_map]
  cases (world.chain id).getLast? <;> rfl

theorem missingPolicy_eq (id : FrameId) :
    twin.missingPolicy (id.displace mark) = world.missingPolicy id := by
  have hframes := h.frames id
  unfold missingPolicy
  generalize world.frame? id = found, twin.frame? (id.displace mark) = other at hframes
  cases hframes with
  | none => rfl
  | some hsame => exact hsame.missing

theorem function?_eq (ref : FunctionRef) :
    twin.defs.function? ref = (world.defs.function? ref).map (·.displace mark) := by
  rw [Definitions.function?, h.functions, Array.getElem?_map]
  rfl

theorem entry?_eq (name : String) : twin.defs.entry? name = world.defs.entry? name := by
  rw [Definitions.entry?, h.table]
  rfl

theorem cached?_eq (site : Nat) : twin.cached? site = world.cached? site := by
  rw [cached?, h.sites]
  rfl

/-! ## Changes -/

theorem addFrame {frame other : Frame} (hsame : frame.Resembles mark other) :
    (twin.addFrame other).1 = (world.addFrame frame).1.displace mark ∧
      (world.addFrame frame).2.Displaced mark spare (twin.addFrame other).2 := by
  have hbound := h.bound
  have hnew : (twin.addFrame other).1 = (world.addFrame frame).1.displace mark := by
    have hbehind : ¬(world.addFrame frame).1.index < mark := Nat.not_lt.mpr hbound
    rw [FrameId.displace, if_neg hbehind]
    exact congrArg FrameId.mk h.size
  refine ⟨hnew, { h with bound := ?_, size := ?_, spare := ?_, frames := ?_ }⟩
  · simp only [World.addFrame, Array.size_push]
    omega
  · simp [World.addFrame, h.size]
  · rw [frame?_addFrame_of_lt (by simp only [h.size]; omega), h.spare]
  · intro id
    rw [frame?_addFrame, frame?_addFrame, hnew]
    simp only [FrameId.displace_inj]
    split
    · exact .some hsame
    · exact h.frames id

theorem modifyFrame (id : FrameId) {change other : Frame → Frame}
    (hchange : ∀ frame twin, frame.Resembles mark twin →
      (change frame).Resembles mark (other twin)) :
    (world.modifyFrame id change).Displaced mark spare
      (twin.modifyFrame (id.displace mark) other) := by
  refine { h with bound := ?_, size := ?_, spare := ?_, frames := ?_ }
  · simpa [World.modifyFrame] using h.bound
  · simpa [World.modifyFrame] using h.size
  · rw [frame?_modifyFrame, if_neg (FrameId.displace_ne_mark mark id).symm, h.spare]
  · intro place
    have hframes := h.frames place
    rw [frame?_modifyFrame, frame?_modifyFrame]
    simp only [FrameId.displace_inj]
    split
    · generalize world.frame? place = found, twin.frame? (place.displace mark) = other at hframes
      cases hframes with
      | none => exact .none
      | some hsame => exact .some (hchange _ _ hsame)
    · exact hframes

theorem modifySpare (change : Frame → Frame) :
    world.Displaced mark (change spare) (twin.modifyFrame ⟨mark⟩ change) := by
  refine { h with size := ?_, spare := ?_, frames := ?_ }
  · simpa [World.modifyFrame] using h.size
  · rw [frame?_modifyFrame, if_pos rfl, h.spare]
    rfl
  · intro id
    rw [frame?_modifyFrame, if_neg (FrameId.displace_ne_mark mark id)]
    exact h.frames id

theorem addThunk {node other : Node} (hnodes : node.Alike (·.blur mark) other) (scope : FrameId) :
    (twin.addThunk other (scope.displace mark)).1 = (world.addThunk node scope).1 ∧
      (world.addThunk node scope).2.Displaced mark spare
        (twin.addThunk other (scope.displace mark)).2 := by
  refine ⟨congrArg ThunkId.mk h.thunkCount, { h with thunkCount := ?_, thunks := ?_ }⟩
  · simp [World.addThunk, h.thunkCount]
  · intro index
    simp only [World.addThunk, Array.getElem?_push, h.thunkCount]
    split
    · exact .some (.pending hnodes scope)
    · exact h.thunks index

theorem setThunk (id : ThunkId) {thunk other : Thunk} (hthunks : thunk.Resembles mark other) :
    (world.setThunk id thunk).Displaced mark spare (twin.setThunk id other) := by
  refine { h with thunkCount := ?_, thunks := ?_ }
  · simp [World.setThunk, h.thunkCount]
  · intro index
    simp only [World.setThunk, Array.getElem?_setIfInBounds, h.thunkCount]
    split
    · split
      · exact .some hthunks
      · exact .none
    · exact h.thunks index

theorem addFunction (callable : Callable) :
    (twin.defs.addFunction (callable.displace mark)).1 = (world.defs.addFunction callable).1 ∧
      World.Displaced mark spare { world with defs := (world.defs.addFunction callable).2 }
        { twin with defs := (twin.defs.addFunction (callable.displace mark)).2 } := by
  refine ⟨?_, { h with functions := ?_ }⟩
  · simp [Definitions.addFunction, h.functions]
  · simp [Definitions.addFunction, h.functions]

theorem defineFunction (name : String) (ref : FunctionRef) :
    World.Displaced mark spare { world with defs := world.defs.defineFunction name ref }
      { twin with defs := twin.defs.defineFunction name ref } := by
  refine { h with table := ?_ }
  have hdoc : (twin.defs.function? ref).bind Callable.doc =
      (world.defs.function? ref).bind Callable.doc := by
    rw [h.function?_eq]
    cases world.defs.function? ref <;> simp
  simp [Definitions.defineFunction, Definitions.install, h.table, hdoc]

theorem remember (site : Nat) (call : CachedCall) :
    (world.remember site call).Displaced mark spare (twin.remember site call) :=
  { h with sites := by simp [World.remember, h.sites] }

theorem addError {failure other : Failure} (hfailures : failure.Alike (·.blur mark) other) :
    (world.addError failure).1.Alike (·.blur mark) (twin.addError other).1 ∧
      (world.addError failure).2.Displaced mark spare (twin.addError other).2 := by
  refine ⟨?_, { h with errorCount := by simp [World.addError, h.errorCount] }⟩
  simp [World.addError, h.errorCount, Value.Alike, hfailures]

theorem withTrace {trace other : Backtrace}
    (htraces : other.rescope (·.blur mark) = trace.rescope (·.blur mark)) :
    World.Displaced mark spare { world with trace } { twin with trace := other } :=
  { h with trace := htraces }

end World.Displaced

namespace World.Grounded

variable {count : Nat} {world : World} (h : world.Grounded count)

include h

theorem mono {fewer : Nat} (hle : fewer ≤ count) : world.Grounded fewer :=
  { h with known := Nat.le_trans hle h.known }

theorem addFrame {frame : Frame}
    (hparent : ∀ parent, frame.parent = some parent → parent.index < count) :
    (world.addFrame frame).2.Grounded (world.frames.size + 1) := by
  have hknown := h.known
  have hsize : (world.addFrame frame).2.frames.size = world.frames.size + 1 := Array.size_push _
  refine { h with known := ?_, frames := ?_, thunks := ?_, functions := ?_ }
  · omega
  · intro id found parent hfound hinside
    rw [frame?_addFrame] at hfound
    split at hfound
    · rename_i hid
      obtain rfl := Option.some.inj hfound
      have hlt := hparent parent hinside
      rw [hid]
      exact Nat.lt_of_lt_of_le hlt hknown
    · exact h.frames id found parent hfound hinside
  · intro node scope hthunk
    obtain ⟨hnode, hscope⟩ := h.thunks node scope hthunk
    exact ⟨hnode, by omega⟩
  · intro callable hcallable
    obtain ⟨hdiscreet, hscope⟩ := h.functions callable hcallable
    refine ⟨hdiscreet, fun closure hclosure => ?_⟩
    have hlt := hscope closure hclosure
    omega

theorem modifyFrame (id : FrameId) {change : Frame → Frame}
    (hchange : ∀ frame, (change frame).parent = frame.parent) :
    (world.modifyFrame id change).Grounded count := by
  have hsize : (world.modifyFrame id change).frames.size = world.frames.size := Array.size_modify
  refine { h with known := ?_, frames := ?_, thunks := ?_, functions := ?_ }
  · rw [hsize]
    exact h.known
  · intro place found parent hfound hinside
    rw [frame?_modifyFrame] at hfound
    split at hfound
    · obtain ⟨old, hold, rfl⟩ := Option.map_eq_some_iff.mp hfound
      exact h.frames place old parent hold (hchange old ▸ hinside)
    · exact h.frames place found parent hfound hinside
  · rw [hsize]
    exact h.thunks
  · rw [hsize]
    exact h.functions

theorem addThunk {node : Node} {scope : FrameId} (hnode : node.Discreet)
    (hscope : scope.index < count) : (world.addThunk node scope).2.Grounded count := by
  refine { h with thunks := ?_ }
  intro found place hthunk
  rcases Array.mem_push.mp hthunk with hold | heq
  · exact h.thunks found place hold
  · cases heq
    exact ⟨hnode, Nat.lt_of_lt_of_le hscope h.known⟩

theorem setThunk (id : ThunkId) {thunk : Thunk}
    (hthunk : ∀ node scope, thunk = .pending node scope →
      node.Discreet ∧ scope.index < world.frames.size) :
    (world.setThunk id thunk).Grounded count := by
  refine { h with thunks := ?_ }
  intro found place hfound
  rcases Array.mem_or_eq_of_mem_setIfInBounds hfound with hold | heq
  · exact h.thunks found place hold
  · exact hthunk found place heq.symm

theorem addFunction {callable : Callable} (hcallable : callable.Discreet)
    (hscope : ∀ closure, callable = .closure closure → closure.scope.index < count) :
    World.Grounded count { world with defs := (world.defs.addFunction callable).2 } := by
  refine { h with functions := ?_ }
  intro found hfound
  rcases Array.mem_push.mp hfound with hold | rfl
  · exact h.functions found hold
  · exact ⟨hcallable, fun closure hclosure => Nat.lt_of_lt_of_le (hscope closure hclosure) h.known⟩

theorem remember (site : Nat) {call : CachedCall} (hcall : call.arguments.All Node.Discreet) :
    (world.remember site call).Grounded count := by
  refine { h with sites := ?_ }
  intro other hother
  rcases Array.mem_or_eq_of_mem_setIfInBounds hother with hold | heq
  · exact h.sites other hold
  · obtain rfl := Option.some.inj heq
    exact hcall

theorem function {ref : FunctionRef} {callable : Callable}
    (hfunction : world.defs.function? ref = some callable) : callable.Discreet ∧
      ∀ closure, callable = .closure closure → closure.scope.index < world.frames.size :=
  h.functions callable (Array.mem_of_getElem? hfunction)

theorem cached {site : Nat} {call : CachedCall} (hcall : world.cached? site = some call) :
    call.arguments.All Node.Discreet :=
  h.sites call (Array.mem_of_getElem? (Option.join_eq_some_iff.mp hcall))

/-- A world with one more frame is displaced from itself, since nothing in it refers to a new frame.
-/
theorem displaced_addFrame (hroot : 0 < world.frames.size) (frame : Frame) :
    world.Displaced world.frames.size frame (world.addFrame frame).2 where
  root := hroot
  bound := Nat.le_refl _
  size := Array.size_push _
  spare := by
    rw [frame?_addFrame]
    exact if_pos rfl
  frames := by
    intro id
    by_cases hid : id.index < world.frames.size
    · rw [FrameId.displace_of_lt hid, frame?_addFrame_of_lt hid]
      cases hframe : world.frame? id with
      | none => exact .none
      | some old =>
          refine .some (congrArg (Frame.rescope _) (Frame.displace_of_parent ?_).symm)
          intro parent hparent
          exact Nat.lt_trans (h.frames id old parent hframe hparent) hid
    · have hbehind := Nat.not_lt.mp hid
      have hnone : (world.addFrame frame).2.frame? (id.displace world.frames.size) = none := by
        refine Array.getElem?_eq_none ?_
        simp only [FrameId.index_displace, if_neg hid, World.addFrame, Array.size_push]
        omega
      rw [hnone, frame?, Array.getElem?_eq_none hbehind]
      exact .none
  thunkCount := rfl
  thunks := by
    intro index
    change Option.Rel _ world.thunks[index]? world.thunks[index]?
    cases hthunk : world.thunks[index]? with
    | none => exact .none
    | some thunk =>
        refine .some ?_
        cases thunk with
        | pending node scope =>
            have hscope := (h.thunks node scope (Array.mem_of_getElem? hthunk)).2
            have hsame : Thunk.Resembles world.frames.size (.pending node scope)
                (.pending node (scope.displace world.frames.size)) := .pending rfl scope
            rwa [FrameId.displace_of_lt hscope] at hsame
        | forcing => exact .forcing
        | done v => exact .done rfl
  functions := by
    have hsame : ∀ callable ∈ world.defs.functions,
        callable.displace world.frames.size = callable := by
      intro callable hcallable
      exact Callable.displace_of_scope (h.functions callable hcallable).2
    exact (Array.map_congr_left hsame).trans (Array.map_id' _) |>.symm
  table := rfl
  sites := rfl
  errorCount := rfl
  trace := rfl

end World.Grounded

end LispEngine
