import LispEngine.Call.Binding

/-!
# Frames

A frame binds names to values and remembers the frame around it. The frame of a function call also
has a slot for each parameter and a record of which parameters were supplied. A variable of the
frame hides the slot of the same name, and a slot hides a supply record of the same name.
-/

namespace LispEngine

inductive MissingPolicy where
  | nil
  | raise
deriving DecidableEq, Repr

structure ThunkId where
  index : Nat
deriving DecidableEq, Repr

inductive Slot where
  | unset
  | ready (v : Value)
  | deferred (thunk : ThunkId)

structure CallSlots where
  spec : LambdaList Node
  slots : List Slot
  supplied : List (Option Bool)

structure Frame where
  locals : Bindings Value
  properties : Bindings (Bindings Value)
  parent : Option FrameId
  call : Option CallSlots
  missing : MissingPolicy

inductive Found where
  | value (v : Value)
  | thunk (id : ThunkId)

namespace Slot

def found? : Slot → Option Found
  | unset => none
  | ready v => some (.value v)
  | deferred thunk => some (.thunk thunk)

def isSet : Slot → Bool
  | unset => false
  | _ => true

end Slot

namespace CallSlots

def unfilled (spec : LambdaList Node) : CallSlots :=
  { spec
    slots := List.replicate spec.size .unset
    supplied := List.replicate spec.size none }

def slot? (call : CallSlots) (name : String) : Option Found :=
  ((call.spec.indexOf? name).bind (call.slots[·]?)).bind Slot.found?

def flag? (call : CallSlots) (name : String) : Option Found :=
  (((call.spec.flagIndex? name).bind (call.supplied[·]?)).join).map fun b => .value (.bool b)

def find? (call : CallSlots) (name : String) : Option Found :=
  (call.slot? name).or (call.flag? name)

def binds (call : CallSlots) (name : String) : Bool :=
  ((call.spec.indexOf? name).bind (call.slots[·]?)).any Slot.isSet ||
    ((call.spec.flagIndex? name).bind (call.supplied[·]?)).any Option.isSome

def fill (call : CallSlots) (index : Nat) (slot : Slot) (supplied : Bool) : CallSlots :=
  { call with
    slots := call.slots.set index slot
    supplied := call.supplied.set index (some supplied) }

/-- Puts a blank in a place, and tells whether what it replaces was in use. -/
def blankAt {α : Type} (blank : α) (inUse : α → Bool) (items : List α) : Option Nat → Bool × List α
  | some index => ((items[index]?).any inUse, items.set index blank)
  | none => (false, items)

def remove (call : CallSlots) (name : String) : Bool × CallSlots :=
  let (filled, slots) := blankAt .unset Slot.isSet call.slots (call.spec.indexOf? name)
  let (recorded, supplied) := blankAt none Option.isSome call.supplied (call.spec.flagIndex? name)
  (filled || recorded, { call with slots, supplied })

def namesOf : List (Parameter Node) → List Slot → List (Option Bool) → List String
  | p :: ps, slot :: slots, supplied :: flags =>
      (if slot.isSet then [p.name] else []) ++
        (if supplied.isSome then p.suppliedFlag.toList else []) ++ namesOf ps slots flags
  | _, _, _ => []

def names (call : CallSlots) : List String := namesOf call.spec.parameters call.slots call.supplied

end CallSlots

namespace Frame

def root (missing : MissingPolicy) : Frame := ⟨[], [], none, none, missing⟩

def find? (frame : Frame) (name : String) : Option Found :=
  match frame.locals.find? name with
  | some v => some (.value v)
  | none => frame.call.bind (·.find? name)

def binds (frame : Frame) (name : String) : Bool :=
  frame.locals.has name || frame.call.any (·.binds name)

def set (frame : Frame) (name : String) (v : Value) : Frame :=
  { frame with locals := frame.locals.insert name v }

def remove (frame : Frame) (name : String) : Bool × Frame :=
  (frame.locals.has name || frame.call.any fun call => (call.remove name).1,
    { frame with
      locals := frame.locals.erase name
      call := frame.call.map fun call => (call.remove name).2 })

def fillSlot (frame : Frame) (index : Nat) (slot : Slot) (supplied : Bool) : Frame :=
  { frame with call := frame.call.map (·.fill index slot supplied) }

/-- The names bound in a frame, one that a variable hides being listed twice. -/
def names (frame : Frame) : List String :=
  frame.locals.names ++
    match frame.call with
    | some call => call.names
    | none => []

def ownsProperties (frame : Frame) (name : String) : Bool :=
  frame.binds name || frame.properties.has name

def propertiesOf (frame : Frame) (name : String) : Bindings Value :=
  (frame.properties.find? name).getD []

def setProperty (frame : Frame) (name key : String) (v : Value) : Frame :=
  { frame with
    properties := frame.properties.insert name ((frame.propertiesOf name).insert key v) }

end Frame

end LispEngine
