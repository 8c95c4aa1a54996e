import LispEngine.Text.Basic

/-!
# Kinds of failures

The kinds form a tree below `Throwable`. A handler for a kind takes the failures of every kind below
it, and names of kinds are read without regard to case.
-/

namespace LispEngine

inductive ErrorKind where
  | throwable
  | error
  | stackOverflow
  | exception
  | compile
  | runtime
  | arithmetic
  | illegalArgument
  | arity
  | illegalState
  | type
  | unboundVariable
  | undefinedFunction
deriving DecidableEq, Repr

namespace ErrorKind

def all : List ErrorKind :=
  [throwable, error, stackOverflow, exception, compile, runtime, arithmetic, illegalArgument,
    arity, illegalState, type, unboundVariable, undefinedFunction]

def name : ErrorKind → String
  | throwable => "Throwable"
  | error => "Error"
  | stackOverflow => "StackOverflowError"
  | exception => "Exception"
  | compile => "CompileException"
  | runtime => "RuntimeException"
  | arithmetic => "ArithmeticException"
  | illegalArgument => "IllegalArgumentException"
  | arity => "ArityException"
  | illegalState => "IllegalStateException"
  | type => "TypeException"
  | unboundVariable => "UnboundVariableException"
  | undefinedFunction => "UndefinedFunctionException"

def parent : ErrorKind → Option ErrorKind
  | throwable => none
  | error | exception => some throwable
  | stackOverflow => some error
  | compile | runtime => some exception
  | arity => some illegalArgument
  | arithmetic | illegalArgument | illegalState | type | unboundVariable | undefinedFunction =>
      some runtime

def lineageWithin : Nat → ErrorKind → List ErrorKind
  | 0, _ => []
  | height + 1, kind =>
      kind ::
        match kind.parent with
        | none => []
        | some above => lineageWithin height above

/-- The kind and all kinds above it. The tree has five levels. -/
def lineage (kind : ErrorKind) : List ErrorKind := lineageWithin 5 kind

def isA (kind ancestor : ErrorKind) : Bool := kind.lineage.contains ancestor

def ofName? (name : String) : Option ErrorKind :=
  all.find? fun kind => Text.sameName kind.name name

end ErrorKind

end LispEngine
