import LispEngine.World.Definitions
import LispEngine.World.Frame

/-!
# Worlds

Everything that evaluations share and change: the frames, the deferred arguments, the definitions,
what the call sites remember, and the evaluations in progress.
-/

namespace LispEngine

inductive Thunk where
  | pending (node : Node) (scope : FrameId)
  | forcing
  | done (v : Value)

namespace Thunk

def isDone : Thunk → Bool
  | done _ => true
  | _ => false

end Thunk

/-- What a call site remembers: the last function that it called, and its bound arguments. -/
structure CachedCall where
  callee : Nat
  arguments : BoundArguments

structure World where
  frames : Array Frame
  thunks : Array Thunk
  defs : Definitions
  sites : Array (Option CachedCall)
  errorCount : Nat
  trace : Backtrace

namespace World

def initial (missing : MissingPolicy) : World :=
  { frames := #[Frame.root missing]
    thunks := #[]
    defs := .initial
    sites := #[]
    errorCount := 0
    trace := .empty }

def root : FrameId := ⟨0⟩

def frame? (world : World) (id : FrameId) : Option Frame := world.frames[id.index]?

def addFrame (world : World) (frame : Frame) : FrameId × World :=
  (⟨world.frames.size⟩, { world with frames := world.frames.push frame })

def modifyFrame (world : World) (id : FrameId) (change : Frame → Frame) : World :=
  { world with frames := world.frames.modify id.index change }

def missingPolicy (world : World) (id : FrameId) : MissingPolicy :=
  match world.frame? id with
  | some frame => frame.missing
  | none => .raise

def addChild (world : World) (parent : FrameId) : FrameId × World :=
  world.addFrame { Frame.root (world.missingPolicy parent) with parent := some parent }

def addCallFrame (world : World) (parent : FrameId) (spec : LambdaList Node) : FrameId × World :=
  world.addFrame {
    Frame.root (world.missingPolicy parent) with
    parent := some parent
    call := some (.unfilled spec) }

def addThunk (world : World) (node : Node) (scope : FrameId) : ThunkId × World :=
  (⟨world.thunks.size⟩, { world with thunks := world.thunks.push (.pending node scope) })

def setThunk (world : World) (id : ThunkId) (thunk : Thunk) : World :=
  { world with thunks := world.thunks.setIfInBounds id.index thunk }

def addError (world : World) (failure : Failure) : Value × World :=
  (.error world.errorCount failure, { world with errorCount := world.errorCount + 1 })

def cached? (world : World) (site : Nat) : Option CachedCall := (world.sites[site]?).join

def remember (world : World) (site : Nat) (call : CachedCall) : World :=
  { world with sites := world.sites.setIfInBounds site (some call) }

def growSites (world : World) (count : Nat) : World :=
  { world with sites := world.sites ++ Array.replicate (count - world.sites.size) none }

end World

end LispEngine
