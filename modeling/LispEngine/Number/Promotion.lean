import LispEngine.Value.Basic

/-!
# Numeric promotion

An operation on numbers works in the widest kind among its operands, and its result is brought back
to that kind. Integers of every kind are worked on in 64 bits.
-/

namespace LispEngine

structure Promotion where
  widest : Option NumKind
deriving DecidableEq, Repr

namespace Promotion

def start : Promotion := ⟨none⟩

def widen (promotion : Promotion) (kind : NumKind) : Promotion :=
  match promotion.widest with
  | none => ⟨some kind⟩
  | some widest => ⟨some (widest.widest kind)⟩

def promote (promotion : Promotion) (v : Value) : Except Cause (Promotion × NumKind) :=
  match v.numKind? with
  | some kind => .ok (promotion.widen kind, kind)
  | none => .error (.mismatch "number" v)

def promoteAll : Promotion → List Value → Except Cause Promotion
  | promotion, [] => .ok promotion
  | promotion, v :: vs => do
      let (next, _) ← promotion.promote v
      next.promoteAll vs

def workKind (promotion : Promotion) : NumKind := promotion.widest.getD .int

end Promotion

/-! ## Operands -/

namespace Value

def intOperand (v : Value) : Except Cause Int64 :=
  match v.toInt64? with
  | some n => .ok n
  | none => .error (.mismatch "integer" v)

def doubleOperand (v : Value) : Except Cause Binary64 :=
  match v with
  | .number (.float x) => .ok x.widen
  | .number (.double x) => .ok x
  | v =>
      match v.toInt64? with
      | some n => .ok (.ofInt64 n)
      | none => .error (.mismatch "number" v)

def versionOfText (text : String) : Except Cause Version :=
  match Version.parse text with
  | .ok version => .ok version
  | .error problem => .error (.badVersion problem)

/-- Floating-point numbers are promoted to versions through their decimal text, and integers to
versions of one component. -/
def versionOperand (v : Value) : Except Cause Version :=
  match v with
  | .number (.version version) => .ok version
  | .number (.float x) => versionOfText (x.text Decimal.plainLayout)
  | .number (.double x) => versionOfText (x.text Decimal.plainLayout)
  | v =>
      match v.toInt64? with
      | some n => if 0 ≤ n.toInt then .ok ⟨[n.toUInt64]⟩ else .error (.negativeVersion n)
      | none => .error (.mismatch "number" v)

end Value

/-! ## Operators -/

namespace ArithOp

/-- The exact result of an operation on whole numbers: division truncates, and the remainder has the
sign of the dividend. -/
def exact : ArithOp → Int → Int → Int
  | add, x, y => x + y
  | sub, x, y => x - y
  | mul, x, y => x * y
  | div, x, y => x.tdiv y
  | rem, x, y => x.tmod y

def needsDivisor : ArithOp → Bool
  | div | rem => true
  | _ => false

/-- The number that has to stay in the 64-bit range for an operation to succeed: for the remainder,
the quotient. -/
def checked : ArithOp → Int → Int → Int
  | rem, x, y => x.tdiv y
  | op, x, y => op.exact x y

def longBound : Int := 0x8000000000000000

def inRange (n : Int) : Bool := -longBound ≤ n && n < longBound

def applyInt (op : ArithOp) (x y : Int64) : Except Cause Int64 :=
  if op.needsDivisor && y.toInt == 0 then .error .divisionByZero
  else if inRange (op.checked x.toInt y.toInt) then .ok (Int64.ofInt (op.exact x.toInt y.toInt))
  else .error (.integerOverflow x op y)

def applyFloat : ArithOp → Binary32 → Binary32 → Binary32
  | add, x, y => x.lift (· + ·) y
  | sub, x, y => x.lift (· - ·) y
  | mul, x, y => x.lift (· * ·) y
  | div, x, y => x.lift (· / ·) y
  | rem, x, y => x.rem y

def applyDouble : ArithOp → Binary64 → Binary64 → Binary64
  | add, x, y => x.lift (· + ·) y
  | sub, x, y => x.lift (· - ·) y
  | mul, x, y => x.lift (· * ·) y
  | div, x, y => x.lift (· / ·) y
  | rem, x, y => x.rem y

def applyVersion (op : ArithOp) (x y : Version) : Except Cause Version :=
  let inside : Option Version → Except Cause Version
    | some version => .ok version
    | none => .error (.versionOverflow x op y)
  match op with
  | add => inside (x.add? y)
  | sub => inside (x.sub? y)
  | _ => .error (.versionOperator op)

end ArithOp

namespace Promotion

def combine (promotion : Promotion) (op : ArithOp) (a b : Value) : Except Cause Value :=
  match promotion.workKind with
  | .byte | .short | .int | .long => do
      let x ← a.intOperand
      let y ← b.intOperand
      let z ← op.applyInt x y
      return .long z
  | .float => do
      let x ← a.doubleOperand
      let y ← b.doubleOperand
      return .number (.float (op.applyFloat x.narrow y.narrow))
  | .double => do
      let x ← a.doubleOperand
      let y ← b.doubleOperand
      return .number (.double (op.applyDouble x y))
  | .version => do
      let x ← a.versionOperand
      let y ← b.versionOperand
      let z ← op.applyVersion x y
      return .number (.version z)

/-- Brings a result back to the widest kind seen, dropping the bits that do not fit. -/
def finish (promotion : Promotion) (result : Value) : Value :=
  match promotion.widest, result with
  | some .byte, .number (.long n) => .number (.byte n.toInt8)
  | some .short, .number (.long n) => .number (.short n.toInt16)
  | some .int, .number (.long n) => .number (.int n.toInt32)
  | some .float, .number (.double x) => .number (.float x.narrow)
  | _, other => other

def compare (promotion : Promotion) (a b : Value) : Except Cause (Option Ordering) :=
  match promotion.workKind with
  | .byte | .short | .int | .long => do
      let x ← a.intOperand
      let y ← b.intOperand
      return some (Ord.compare x.toInt y.toInt)
  | .float | .double => do
      let x ← a.doubleOperand
      let y ← b.doubleOperand
      return x.compare y
  | .version => do
      let x ← a.versionOperand
      let y ← b.versionOperand
      return some (x.compare y)

end Promotion

/-! ## Folding and comparing operands

The operators take any number of operands. The kind of the result is decided from all of them before
the first step.
-/

def combineAll (promotion : Promotion) (op : ArithOp) : Value → List Value → Except Cause Value
  | acc, [] => .ok acc
  | acc, v :: vs => do
      let next ← promotion.combine op acc v
      combineAll promotion op next vs

/-- Applies an operator from left to right. A single operand of subtraction or division is preceded
by the neutral operand. -/
def fold (op : ArithOp) (operands : List Value) : Except Cause Value := do
  let promotion ← Promotion.start.promoteAll operands
  match operands, op.neutral with
  | [], some neutral => return (promotion.widen neutral.kind).finish (.number neutral)
  | [], none => throw (.tooFewOperands op)
  | [operand], neutral =>
      match op, neutral with
      | .rem, _ => throw (.tooFewOperands op)
      | .sub, some neutral | .div, some neutral =>
          let promotion := promotion.widen neutral.kind
          let result ← promotion.combine op (.number neutral) operand
          return promotion.finish result
      | _, _ => return promotion.finish operand
  | first :: rest, _ =>
      let result ← combineAll promotion op first rest
      return promotion.finish result

def compareAll (promotion : Promotion) (relation : Relation) : List Value → Except Cause Bool
  | a :: b :: rest => do
      match ← promotion.compare a b with
      | some order =>
          if relation.holds order then compareAll promotion relation (b :: rest) else return false
      | none => return false
  | _ => return true

def compareChain (relation : Relation) (operands : List Value) : Except Cause Bool := do
  let promotion ← Promotion.start.promoteAll operands
  compareAll promotion relation operands

end LispEngine
