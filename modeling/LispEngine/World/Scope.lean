import LispEngine.World.Basic
import LispEngine.Text.Printable

/-!
# Scopes

A name is looked up in a frame, then in the frame around it, and so on to a root. Since a frame is
made after the frame around it, the number of a frame bounds the length of its chain.
-/

namespace LispEngine.World

def chainWithin (world : World) : Nat → FrameId → List FrameId
  | 0, _ => []
  | steps + 1, id =>
      match world.frame? id with
      | none => []
      | some frame =>
          id ::
            match frame.parent with
            | none => []
            | some parent => world.chainWithin steps parent

def chain (world : World) (id : FrameId) : List FrameId := world.chainWithin (id.index + 1) id

def localFind? (world : World) (name : String) (id : FrameId) : Option Found :=
  (world.frame? id).bind (·.find? name)

def bindsLocally (world : World) (name : String) (id : FrameId) : Bool :=
  (world.frame? id).any (·.binds name)

def find? (world : World) (id : FrameId) (name : String) : Option Found :=
  (world.chain id).findSome? (world.localFind? name)

def contains (world : World) (id : FrameId) (name : String) : Bool :=
  (world.chain id).any (world.bindsLocally name)

def binder? (world : World) (id : FrameId) (name : String) : Option FrameId :=
  (world.chain id).find? (world.bindsLocally name)

def rootOf (world : World) (id : FrameId) : FrameId := (world.chain id).getLast?.getD id

def setLocal (world : World) (id : FrameId) (name : String) (v : Value) : World :=
  world.modifyFrame id (·.set name v)

@[inline] def define (world : World) (id : FrameId) (name : String) (v : Value) :
    Except Cause World :=
  if world.bindsLocally name id then .error (.alreadyDefined name)
  else .ok (world.setLocal id name v)

/-- Assigns a name where it is bound nearest, or in the frame itself when it is not bound. -/
def updateNearest (world : World) (id : FrameId) (name : String) (v : Value) : World :=
  world.setLocal ((world.binder? id name).getD id) name v

def updateGlobal (world : World) (id : FrameId) (name : String) (v : Value) : World :=
  world.setLocal (world.rootOf id) name v

def update (world : World) (discipline : Discipline) (id : FrameId) (name : String) (v : Value) :
    World :=
  match discipline with
  | .global => world.updateGlobal id name v
  | .nearest => world.updateNearest id name v

def removeLocal (world : World) (id : FrameId) (name : String) : Bool × World :=
  ((world.frame? id).any fun frame => (frame.remove name).1,
    world.modifyFrame id fun frame => (frame.remove name).2)

def removeNext (name : String) (removed : Bool × World) (id : FrameId) : Bool × World :=
  let (bound, world) := removed.2.removeLocal id name
  (removed.1 || bound, world)

/-- Removes a name from every frame of the chain, and tells whether it was bound in any of them. -/
def remove (world : World) (id : FrameId) (name : String) : Bool × World :=
  (world.chain id).foldl (removeNext name) (false, world)

/-! ## Properties -/

/-- The nearest frame that binds a name or has properties for it. -/
def propertyOwner? (world : World) (id : FrameId) (name : String) : Option FrameId :=
  (world.chain id).find? fun frame => (world.frame? frame).any (·.ownsProperties name)

def setProperty (world : World) (id : FrameId) (name key : String) (v : Value) : World :=
  world.modifyFrame ((world.propertyOwner? id name).getD id) (·.setProperty name key v)

def properties (world : World) (id : FrameId) (name : String) : Bindings Value :=
  match (world.propertyOwner? id name).bind world.frame? with
  | some frame => frame.propertiesOf name
  | none => []

def property? (world : World) (id : FrameId) (name key : String) : Option Value :=
  (world.properties id name).find? key

/-! ## Names -/

def localNames (world : World) (id : FrameId) : List String :=
  match world.frame? id with
  | some frame => frame.names
  | none => []

def sorted (names : List String) : List String := names.mergeSort fun a b => decide (a ≤ b)

def distinct : List String → List String
  | a :: b :: rest => if a = b then distinct (b :: rest) else a :: distinct (b :: rest)
  | short => short

def matchingNames (world : World) (id : FrameId) (stem : String) : List String :=
  let names := (world.chain id).flatMap world.localNames
  distinct (sorted (names.filter fun name => stem.toList.isPrefixOf name.toList))

def describeFrame (world : World) (id : FrameId) : String :=
  let names := sorted (world.localNames id)
  let frame := world.frame? id
  let isCall := frame.any (·.call.isSome)
  let isRoot := frame.any (·.parent.isNone)
  "Ctx \x7b names: [" ++ ", ".intercalate (names.map Text.quoted) ++ "], call_frame: " ++
    Value.boolText isCall ++ ", root: " ++ Value.boolText isRoot ++ " \x7d"

end LispEngine.World
