import LispEngine.Bindings
import LispEngine.Error.Cause

/-!
# Lambda lists

A lambda list declares the parameters of a function. Markers between the names give them their
roles. The default forms of parameters are of type `N`.
-/

namespace LispEngine

inductive Role where
  | mandatory
  | mandatoryAfterOptional
  | optional
  | rest
  | keyword
  | restThenKeyword
deriving DecidableEq, Repr

namespace Role

def name : Role → String
  | mandatory => "Mandatory"
  | mandatoryAfterOptional => "MandatoryAfterOptional"
  | optional => "Optional"
  | rest => "Rest"
  | keyword => "Keyword"
  | restThenKeyword => "RestThenKeyword"

def isKeyword : Role → Bool
  | keyword | restThenKeyword => true
  | _ => false

def isPositional : Role → Bool
  | mandatory | optional | mandatoryAfterOptional => true
  | _ => false

def marker : Role → String
  | mandatory => ""
  | mandatoryAfterOptional => "&REQUIRED"
  | optional => "&OPTIONAL"
  | rest => "&REST"
  | keyword | restThenKeyword => "&KEY"

end Role

structure Parameter (N : Type) where
  name : String
  role : Role
  default : Option N
  suppliedFlag : Option String
  allowOtherKeys : Bool
  isLazy : Bool
  isPipe : Bool

/-- The parameters of a function, with what was noted down when they were declared. -/
structure LambdaList (N : Type) where
  parameters : List (Parameter N)
  /-- Whether a parameter for the rest was declared. -/
  hasRest : Bool
  /-- The places of parameters by their names. -/
  byName : Bindings Nat
  /-- The places of parameters by the names under which their supply is recorded. -/
  byFlag : Bindings Nat

namespace LambdaList

variable {N : Type}

def empty : LambdaList N := ⟨[], false, [], []⟩

def size (spec : LambdaList N) : Nat := spec.parameters.length

def add (spec : LambdaList N) (p : Parameter N) : LambdaList N where
  parameters := spec.parameters ++ [p]
  hasRest := spec.hasRest || p.role == .rest
  byName := spec.byName.insert p.name spec.size
  byFlag := p.suppliedFlag.elim spec.byFlag (spec.byFlag.insert · spec.size)

def hasKeywords (spec : LambdaList N) : Bool := spec.parameters.any (·.role.isKeyword)

def allowsOtherKeys (spec : LambdaList N) : Bool :=
  spec.parameters.any fun p => p.role.isKeyword && p.allowOtherKeys

def indexOf? (spec : LambdaList N) (name : String) : Option Nat := spec.byName.find? name

def flagIndex? (spec : LambdaList N) (name : String) : Option Nat := spec.byFlag.find? name

def keywordIndex? (spec : LambdaList N) (key : String) : Option Nat :=
  (spec.indexOf? key).filter fun i => (spec.parameters[i]?.map (·.role.isKeyword)).getD false

def restIndex? (spec : LambdaList N) : Option Nat :=
  spec.parameters.findIdx? (·.role == .rest)

def pipeIndex? (spec : LambdaList N) : Option Nat := spec.parameters.findIdx? (·.isPipe)

def displayFrom : Role → List (Parameter N) → List String
  | _, [] => []
  | role, p :: ps =>
      (if p.role = role then [] else [p.role.marker]) ++
        (if p.isPipe then ["&PIPE"] else []) ++ p.name :: displayFrom p.role ps

def display (spec : LambdaList N) : String :=
  "(" ++ " ".intercalate (displayFrom .mandatory spec.parameters) ++ ")"

end LambdaList

end LispEngine
