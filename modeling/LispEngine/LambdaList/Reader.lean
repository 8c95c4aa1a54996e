import LispEngine.LambdaList.Basic

/-!
# Reading lambda lists

The tokens of a lambda list drive an automaton over the roles. The reader keeps the role, the
laziness and the pipe mark that the next parameter takes.
-/

namespace LispEngine

inductive Marker where
  | required
  | optional
  | rest
  | key
  | allowOtherKeys
  | lazy
  | eager
  | pipe
deriving DecidableEq, Repr

namespace Marker

def all : List Marker := [required, optional, rest, key, allowOtherKeys, lazy, eager, pipe]

def text : Marker → String
  | required => "&REQUIRED"
  | optional => "&OPTIONAL"
  | rest => "&REST"
  | key => "&KEY"
  | allowOtherKeys => "&ALLOW-OTHER-KEYS"
  | lazy => "&LAZY"
  | eager => "&EAGER"
  | pipe => "&PIPE"

def ofText? (token : String) : Option Marker :=
  all.find? fun marker => marker.text == Text.canonical token

end Marker

/-- The role that a marker leads to, none when it is out of place. -/
def Role.next? : Role → Marker → Option Role
  | .mandatory, .optional => some .optional
  | .mandatory, .rest => some .rest
  | .mandatory, .key | .optional, .key => some .keyword
  | .rest, .key => some .restThenKeyword
  | .optional, .required | .rest, .required | .keyword, .required | .restThenKeyword, .required =>
      some .mandatoryAfterOptional
  | _, _ => none

/-- An element of a lambda list. A compound one may declare a default and a name for the record of
its supply. -/
inductive LambdaToken (N : Type) where
  | name (name : String)
  | marker (text : String)
  | compound (name : String) (default : Option N) (flag : Option String)

namespace LambdaToken

def isMarkerText (token : String) : Bool := token.toList.head? == some '&'

def ofText {N : Type} (token : String) : LambdaToken N :=
  if isMarkerText token then .marker token else .name token

end LambdaToken

structure LambdaReader (N : Type) where
  role : Role
  isLazy : Bool
  allowOtherKeys : Bool
  pipePending : Bool
  pipeUsed : Bool
  spec : LambdaList N

namespace LambdaReader

variable {N V : Type}

def start : LambdaReader N := ⟨.mandatory, false, false, false, false, .empty⟩

/-- Allows other keys in the keyword parameters that were declared before the marker. -/
def allowInKeywords (spec : LambdaList N) : LambdaList N :=
  { spec with
    parameters := spec.parameters.map fun p =>
      if p.role.isKeyword then { p with allowOtherKeys := true } else p }

def takeMarker (reader : LambdaReader N) (token : String) :
    Except (CauseOf V) (LambdaReader N) :=
  match Marker.ofText? token with
  | none => .error (.unknownMarker token)
  | some .lazy => .ok { reader with isLazy := true }
  | some .eager => .ok { reader with isLazy := false }
  | some .pipe =>
      if reader.pipePending || reader.pipeUsed then .error .secondPipe
      else .ok { reader with pipePending := true }
  | some .allowOtherKeys =>
      if reader.role.isKeyword then
        .ok { reader with
          allowOtherKeys := true
          spec := allowInKeywords reader.spec }
      else .error (.misplacedMarker token)
  | some marker =>
      match reader.role.next? marker with
      | some role => .ok { reader with role }
      | none => .error (.misplacedMarker token)

def declare (reader : LambdaReader N) (name : String) (default : Option N) (flag : Option String) :
    Parameter N :=
  { name
    role := reader.role
    default
    suppliedFlag := flag
    allowOtherKeys := reader.allowOtherKeys && reader.role.isKeyword
    isLazy := reader.isLazy
    isPipe := reader.pipePending }

/-- Whether the name of a supply record is that of a parameter or of another record. -/
def flagTaken (byName byFlag : Bindings Nat) (flag : Option String) : Bool :=
  flag.any fun name => byName.has name || byFlag.has name

/-- The name of a parameter is noted down before that of its supply record is looked for. -/
def takeName (reader : LambdaReader N) (name : String) (default : Option N) (flag : Option String)
    (compound : Bool) : Except (CauseOf V) (LambdaReader N) :=
  if compound && reader.role != .optional && !reader.role.isKeyword then
    .error (.misplacedDefault name)
  else if reader.role == .rest && reader.spec.hasRest then .error (.secondRest name)
  else if reader.spec.byName.has name then .error (.duplicateName name)
  else if flagTaken (reader.spec.byName.insert name reader.spec.size) reader.spec.byFlag flag then
    .error (.duplicateName (flag.getD name))
  else
    .ok { reader with
      pipePending := false
      pipeUsed := reader.pipeUsed || reader.pipePending
      spec := reader.spec.add (reader.declare name default flag) }

def take (reader : LambdaReader N) : LambdaToken N → Except (CauseOf V) (LambdaReader N)
  | .marker text => reader.takeMarker text
  | .name name => reader.takeName name none none false
  | .compound name default flag => reader.takeName name default flag true

def finish (reader : LambdaReader N) : Except (CauseOf V) (LambdaList N) :=
  if reader.pipePending then .error .danglingPipe else .ok reader.spec

def takeAll : LambdaReader N → List (LambdaToken N) → Except (CauseOf V) (LambdaReader N)
  | reader, [] => .ok reader
  | reader, token :: tokens => do
      let next ← reader.take token
      next.takeAll tokens

end LambdaReader

namespace LambdaList

variable {N V : Type}

def ofTokens (tokens : List (LambdaToken N)) : Except (CauseOf V) (LambdaList N) := do
  let reader ← LambdaReader.start.takeAll tokens
  reader.finish

def parse (tokens : List String) : Except (CauseOf V) (LambdaList N) :=
  ofTokens (tokens.map LambdaToken.ofText)

end LambdaList

end LispEngine
