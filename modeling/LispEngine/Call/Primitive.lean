import LispEngine.Number.Promotion
import LispEngine.Value.Equality

/-!
# Primitive functions

The functions that every world starts with. They receive one value for each parameter, the value of
a rest parameter being a list.
-/

namespace LispEngine

inductive Primitive where
  | arith (op : ArithOp)
  | compare (relation : Relation)
  | not
  | list
  | equal
  | version
  | errorMessage
  | errorKind
  | errorPayload
deriving DecidableEq, Repr

namespace Primitive

def all : List Primitive :=
  [arith .add, arith .sub, arith .mul, arith .div, arith .rem,
    compare .equal, compare .less, compare .greater, compare .lessOrEqual, compare .greaterOrEqual,
    not, list, equal, version, errorMessage, errorKind, errorPayload]

def name : Primitive → String
  | arith op => op.symbol
  | compare relation => relation.symbol
  | not => "NOT"
  | list => "LIST"
  | equal => "EQUAL"
  | version => "VERSION"
  | errorMessage => "ERROR-MESSAGE"
  | errorKind => "ERROR-KIND"
  | errorPayload => "ERROR-PAYLOAD"

def parameters : Primitive → List String
  | arith _ => ["&REST", "numbers"]
  | compare _ => ["x", "&REST", "more"]
  | not => ["x"]
  | list => ["&REST", "items"]
  | equal => ["a", "b"]
  | version => ["text"]
  | errorMessage | errorKind | errorPayload => ["error"]

def doc : Primitive → String
  | arith .add => "Sum of the numbers; 0 when called without arguments."
  | arith .sub =>
      "Subtracts the remaining numbers from the first, or negates a single number."
  | arith .mul => "Product of the numbers; 1 when called without arguments."
  | arith .div => "Divides the first number by the rest; integer operands divide truncating."
  | arith .rem => "Remainder of dividing the first number by the rest."
  | compare .equal => "True when all numbers are numerically equal."
  | compare .less => "True when the numbers are strictly increasing."
  | compare .greater => "True when the numbers are strictly decreasing."
  | compare .lessOrEqual => "True when the numbers never decrease."
  | compare .greaterOrEqual => "True when the numbers never increase."
  | not => "True when x is nil or false."
  | list => "A list of the arguments."
  | equal => "True when a and b are structurally equal."
  | version => "Parses a dotted version such as \"1.2.3\"."
  | errorMessage => "Message of a caught exception."
  | errorKind => "Kind of a caught exception, as a symbol."
  | errorPayload => "Non-string value given to THROW, or nil."

end Primitive

/-- The values with the items of a list at their end put in its place. -/
def spread : List Value → List Value
  | [] => []
  | [.list items] => items
  | [v] => [v]
  | v :: vs => v :: spread vs

namespace Primitive

def versionOf : Value → Except Cause Value
  | .string text => do return .number (.version (← Value.versionOfText text))
  | .number (.version v) => .ok (.number (.version v))
  | v => .error (.mismatch "string" v)

def ofFailure (read : Failure → Value) : Value → Except Cause Value
  | .error _ failure => .ok (read failure)
  | v => .error (.mismatch "error" v)

def run : Primitive → List Value → Except Cause Value
  | arith op, vs => fold op (spread vs)
  | compare relation, vs => do return .bool (← compareChain relation (spread vs))
  | list, vs => .ok (.list (spread vs))
  | not, v :: _ => .ok (.bool !v.isTruthy)
  | equal, v :: w :: _ => .ok (.bool (v.equal w))
  | version, v :: _ => versionOf v
  | errorMessage, v :: _ => ofFailure (fun failure => .string failure.message) v
  | errorKind, v :: _ => ofFailure (fun failure => .symbol failure.kind.name) v
  | errorPayload, v :: _ => ofFailure (fun failure => failure.payload.getD .nil) v
  | primitive, _ => .error (.argumentMissing primitive.name)

end Primitive

end LispEngine
