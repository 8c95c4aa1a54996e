import LispEngine.Error.Failure

/-!
# Values

The values of the language. Functions, caught failures and objects of the embedding program have an
identity: a number that no other function, failure or object of the same world has.
-/

namespace LispEngine

/-- The keys of maps. Numbers of all integer kinds are one sort of key. -/
inductive Key where
  | keyword (name : String)
  | symbol (name : String)
  | string (text : String)
  | number (n : Int64)
  | bool (b : Bool)
deriving DecidableEq, Repr

/-- A handle for a function: its identity, and the name that it is shown by. -/
structure FunctionRef where
  id : Nat
  name : String
deriving DecidableEq, Repr

/-- The elements of an object that can be gone through: how many there are, and which one stands at
each place. -/
structure Elements (α : Type) where
  size : Nat
  get : Nat → α

def Elements.toList {α : Type} (elements : Elements α) : List α :=
  (List.range elements.size).map elements.get

/-- The entries of a map stand in the order of their keys. -/
inductive Value where
  | nil
  | bool (b : Bool)
  | number (n : Number)
  | char (c : Char)
  | string (text : String)
  | symbol (name : String)
  | keyword (name : String)
  | regex (pattern : String)
  | list (items : List Value)
  | map (entries : List (Key × Value))
  | function (ref : FunctionRef)
  | error (id : Nat) (failure : FailureOf Value)
  | object (id : Nat) (typeName : String) (elements : Option (Elements Value))

instance : Inhabited Value := ⟨.nil⟩

abbrev Cause := CauseOf Value

abbrev Failure := FailureOf Value

namespace Value

def int (n : Int32) : Value := .number (.int n)

def long (n : Int64) : Value := .number (.long n)

def typeName : Value → String
  | nil => "nil"
  | bool _ => "boolean"
  | number (.byte _) => "byte"
  | number (.short _) => "short"
  | number (.int _) => "int"
  | number (.long _) => "long"
  | number (.float _) => "float"
  | number (.double _) => "double"
  | number (.version _) => "version"
  | char _ => "char"
  | string _ => "string"
  | symbol _ => "symbol"
  | keyword _ => "keyword"
  | regex _ => "regex"
  | list _ => "list"
  | map _ => "map"
  | function _ => "function"
  | error .. => "error"
  | object .. => "object"

def isTruthy : Value → Bool
  | nil => false
  | bool b => b
  | _ => true

def isNil : Value → Bool
  | nil => true
  | _ => false

def number? : Value → Option Number
  | number n => some n
  | _ => none

def numKind? (v : Value) : Option NumKind := v.number?.map Number.kind

def toInt64? (v : Value) : Option Int64 := v.number?.bind Number.toInt64?

def keyword? : Value → Option String
  | keyword name => some name
  | _ => none

def ofKey : Key → Value
  | .keyword name => keyword name
  | .symbol name => symbol name
  | .string text => string text
  | .number n => long n
  | .bool b => bool b

def key? : Value → Option Key
  | keyword name => some (.keyword name)
  | symbol name => some (.symbol name)
  | string text => some (.string text)
  | bool b => some (.bool b)
  | number n => n.toInt64?.map Key.number
  | _ => none

end Value

def CauseOf.mismatch (expected : String) (found : Value) : Cause :=
  .typeMismatch expected found.typeName

/-- The ways in which a computation ends without a value: a failure, a return on its way to the
function that it leaves, or the end of the allotted steps. -/
inductive Signal where
  | failed (failure : Failure)
  | returned (v : Value)
  | exhausted

namespace Signal

def annotate (signal : Signal) (position : Option Position) (trace : Backtrace) : Signal :=
  match signal with
  | failed failure => failed (failure.annotate position trace)
  | other => other

end Signal

end LispEngine
