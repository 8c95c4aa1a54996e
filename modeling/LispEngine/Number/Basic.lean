import LispEngine.Number.Binary
import LispEngine.Number.Version

/-!
# Numbers

The numeric kinds of the language, from the narrowest to the widest, and the operators on them.
-/

namespace LispEngine

inductive NumKind where
  | byte
  | short
  | int
  | long
  | float
  | double
  | version
deriving DecidableEq, Repr

namespace NumKind

def rank : NumKind → Nat
  | byte => 0
  | short => 1
  | int => 2
  | long => 3
  | float => 4
  | double => 5
  | version => 6

def widest (a b : NumKind) : NumKind := if a.rank ≤ b.rank then b else a

def isInteger (kind : NumKind) : Bool := kind.rank ≤ rank long

def name : NumKind → String
  | byte => "Byte"
  | short => "Short"
  | int => "Int"
  | long => "Long"
  | float => "Float"
  | double => "Double"
  | version => "Version"

end NumKind

inductive Number where
  | byte (n : Int8)
  | short (n : Int16)
  | int (n : Int32)
  | long (n : Int64)
  | float (x : Binary32)
  | double (x : Binary64)
  | version (v : Version)
deriving DecidableEq, Repr

namespace Number

def kind : Number → NumKind
  | byte _ => .byte
  | short _ => .short
  | int _ => .int
  | long _ => .long
  | float _ => .float
  | double _ => .double
  | version _ => .version

def toInt64? : Number → Option Int64
  | byte n => some n.toInt64
  | short n => some n.toInt64
  | int n => some n.toInt64
  | long n => some n
  | _ => none

def display : Number → String
  | byte n => toString n.toInt
  | short n => toString n.toInt
  | int n => toString n.toInt
  | long n => toString n.toInt
  | float x => x.text Decimal.valueLayout
  | double x => x.text Decimal.valueLayout
  | version v => v.display

/-- Numbers of different kinds are different. Floating-point numbers are compared by their bits and
versions without the zeros at their ends. -/
def equal : Number → Number → Bool
  | byte a, byte b => a == b
  | short a, short b => a == b
  | int a, int b => a == b
  | long a, long b => a == b
  | float a, float b => a.bits == b.bits
  | double a, double b => a.bits == b.bits
  | version a, version b => a.equal b
  | _, _ => false

end Number

inductive ArithOp where
  | add
  | sub
  | mul
  | div
  | rem
deriving DecidableEq, Repr

namespace ArithOp

def symbol : ArithOp → String
  | add => "+"
  | sub => "-"
  | mul => "*"
  | div => "/"
  | rem => "MOD"

/-- The operand that stands in for missing ones. The remainder has none. -/
def neutral : ArithOp → Option Number
  | add | sub => some (.int 0)
  | mul | div => some (.int 1)
  | rem => none

end ArithOp

inductive Relation where
  | equal
  | less
  | greater
  | lessOrEqual
  | greaterOrEqual
deriving DecidableEq, Repr

namespace Relation

def symbol : Relation → String
  | equal => "="
  | less => "<"
  | greater => ">"
  | lessOrEqual => "<="
  | greaterOrEqual => ">="

def holds : Relation → Ordering → Bool
  | equal, o => o == .eq
  | less, o => o == .lt
  | greater, o => o == .gt
  | lessOrEqual, o => o != .gt
  | greaterOrEqual, o => o != .lt

end Relation

end LispEngine
