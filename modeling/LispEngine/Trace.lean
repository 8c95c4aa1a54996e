import LispEngine.Text.Basic

/-!
# Positions and backtraces

Where a form stands in its source, and the stack of evaluations in progress. The stack is rendered
with the innermost evaluation first.
-/

namespace LispEngine

structure Position where
  line : Nat
  column : Nat
  index : Nat
deriving DecidableEq, Repr

namespace Position

def start : Position := ⟨0, 0, 0⟩

def display (position : Position) : String := s!"{position.line}:{position.column}"

end Position

structure FrameId where
  index : Nat
deriving DecidableEq, Repr

structure Call where
  name : String
  position : Option Position
  scope : FrameId
deriving DecidableEq, Repr

/-- The evaluations in progress, the outermost one first. -/
structure Backtrace where
  calls : Array Call
deriving DecidableEq, Repr

namespace Backtrace

def empty : Backtrace := ⟨#[]⟩

def size (trace : Backtrace) : Nat := trace.calls.size

def push (trace : Backtrace) (call : Call) : Backtrace := ⟨trace.calls.push call⟩

def isFull (trace : Backtrace) (limit : Nat) : Bool := limit ≤ trace.size

def push? (trace : Backtrace) (limit : Nat) (call : Call) : Option Backtrace :=
  if trace.isFull limit then none else some (trace.push call)

def pop (trace : Backtrace) : Backtrace := ⟨trace.calls.pop⟩

def top? (trace : Backtrace) : Option Call := trace.calls.back?

def padLeft (width : Nat) (text : String) : String :=
  String.ofList (List.replicate (width - text.length) ' ') ++ text

def padRight (width : Nat) (text : String) : String :=
  text ++ String.ofList (List.replicate (width - text.length) ' ')

def positionText (call : Call) : String :=
  match call.position with
  | some position => position.display
  | none => "<unknown>"

def nameWidth (trace : Backtrace) : Nat :=
  trace.calls.foldl (fun width call => max width call.name.length) 0

/-- One line per evaluation: its number, counted from the outermost one, its name and its position,
in columns. -/
def renderLine (indexWidth nameWidth : Nat) (index : Nat) (call : Call) : String :=
  padLeft indexWidth (toString index) ++ ": " ++ padRight nameWidth call.name ++ "  " ++
    positionText call

def renderLines (trace : Backtrace) : List String :=
  let indexWidth := (toString (trace.size - 1)).length
  let lines := trace.calls.toList.mapIdx (renderLine indexWidth trace.nameWidth)
  lines.reverse

def render (trace : Backtrace) : String :=
  String.join (trace.renderLines.map (· ++ "\n"))

end Backtrace

end LispEngine
