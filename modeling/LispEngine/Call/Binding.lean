import LispEngine.Node

/-!
# Binding call sites

The argument expressions of a call are distributed over the parameters of the function: the
mandatory parameters at the two ends take theirs first, then the optional ones from the left. What
remains goes to the rest parameter, and is read as pairs of keys and expressions when there are
keyword parameters.
-/

namespace LispEngine

/-- What a call site supplies for a parameter. -/
inductive Bound where
  | missing
  | single (node : Node)
  | rest (nodes : List Node)

instance : Inhabited Bound := ⟨.missing⟩

structure BoundArguments where
  spec : LambdaList Node
  bound : List Bound

namespace LambdaList

def countRole {N : Type} (spec : LambdaList N) (role : Role) : Nat :=
  spec.parameters.countP (·.role == role)

end LambdaList

/-- The expressions given for keyword parameters, in the order in which they were given. -/
abbrev KeywordArguments := List (String × Node)

def readKeywords (spec : LambdaList Node) :
    List Node → KeywordArguments → Except Cause KeywordArguments
  | key :: node :: rest, given =>
      match key.constant?.bind Value.keyword? with
      | none => .error (.keywordExpected key.name)
      | some name =>
          match spec.keywordIndex? name with
          | some _ =>
              if (given.lookup name).isSome then .error (.keywordTwice name)
              else readKeywords spec rest (given ++ [(name, node)])
          | none =>
              if spec.allowsOtherKeys then readKeywords spec rest given
              else .error (.unknownKeyword name)
  | _, given => .ok given

def bindKeywords (spec : LambdaList Node) (nodes : List Node) :
    Except Cause KeywordArguments :=
  if !spec.hasKeywords then .ok []
  else if nodes.length % 2 != 0 then .error .oddKeywords
  else readKeywords spec nodes []

/-- The expressions of a call, cut by the parameters that take them. -/
structure Portions where
  leading : List Node
  remaining : List Node
  trailing : List Node
  keywords : KeywordArguments

def distribute : List (Parameter Node) → Portions → List Bound
  | [], _ => []
  | p :: ps, portions =>
      match p.role with
      | .mandatory | .optional =>
          match portions.leading with
          | node :: leading => .single node :: distribute ps { portions with leading }
          | [] => .missing :: distribute ps portions
      | .mandatoryAfterOptional =>
          match portions.trailing with
          | node :: trailing => .single node :: distribute ps { portions with trailing }
          | [] => .missing :: distribute ps portions
      | .rest => .rest portions.remaining :: distribute ps portions
      | .keyword | .restThenKeyword =>
          match portions.keywords.lookup p.name with
          | some node => .single node :: distribute ps portions
          | none => .missing :: distribute ps portions

def bindArguments (spec : LambdaList Node) (nodes : List Node) : Except Cause BoundArguments := do
  let head := spec.countRole .mandatory
  let tail := spec.countRole .mandatoryAfterOptional
  let optional := spec.countRole .optional
  if nodes.length < head + tail then
    throw (.tooFewArguments (head + tail) nodes.length)
  let front := nodes.take (nodes.length - tail)
  let remaining := front.drop (head + optional)
  let keywords ← bindKeywords spec remaining
  if spec.restIndex?.isNone && !spec.hasKeywords && !remaining.isEmpty then
    throw (.tooManyArguments (head + tail + optional)
      (head + tail + optional + remaining.length))
  return {
    spec
    bound := distribute spec.parameters {
      leading := front.take (head + optional)
      remaining
      trailing := nodes.drop (nodes.length - tail)
      keywords } }

end LispEngine
