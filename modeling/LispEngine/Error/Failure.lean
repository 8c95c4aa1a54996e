import LispEngine.Error.Cause
import LispEngine.Trace

/-!
# Failures

A cause together with the position and the backtrace at which it arose. Both are filled in once: the
first evaluation that a failure leaves settles them.
-/

namespace LispEngine

structure FailureOf (V : Type) where
  cause : CauseOf V
  position : Option Position
  trace : Option Backtrace

namespace FailureOf

variable {V : Type}

def of (cause : CauseOf V) : FailureOf V := ⟨cause, none, none⟩

def located (position : Position) (cause : CauseOf V) : FailureOf V := ⟨cause, some position, none⟩

def kind (failure : FailureOf V) : ErrorKind := failure.cause.kind

def message (failure : FailureOf V) : String := failure.cause.message

def payload (failure : FailureOf V) : Option V := failure.cause.payload

def display (failure : FailureOf V) : String := failure.cause.display

/-- Settles the position of a failure that has none. -/
def withPosition (failure : FailureOf V) (position : Position) : FailureOf V :=
  { failure with position := failure.position.or (some position) }

def withTrace (failure : FailureOf V) (trace : Backtrace) : FailureOf V :=
  { failure with trace := failure.trace.or (some trace) }

def annotate (failure : FailureOf V) (position : Option Position) (trace : Backtrace) :
    FailureOf V :=
  match position with
  | some position => (failure.withPosition position).withTrace trace
  | none => failure.withTrace trace

end FailureOf

def errorTag : String := "\x1b[31m[ERROR]\x1b[0m"

/-- The lines of a report: the description, the position and the backtrace, as far as known. -/
def reportLines (description : String) (position : Option Position) (trace : Option Backtrace) :
    List String :=
  let place :=
    match position with
    | some position => ["  at " ++ position.display]
    | none => []
  let stack :=
    match trace with
    | some trace => (Text.lines trace.render).map ("  " ++ ·)
    | none => []
  (errorTag ++ " " ++ description) :: place ++ stack

def FailureOf.report {V : Type} (failure : FailureOf V) : List String :=
  reportLines failure.display failure.position failure.trace

end LispEngine
