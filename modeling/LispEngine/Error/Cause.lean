import LispEngine.Error.Kind
import LispEngine.Number.Basic

/-!
# Causes of failures

What went wrong, with the category, the kind and the message that follow from it. A cause carries a
value of type `V` when a value that is not a text was thrown.
-/

namespace LispEngine

inductive Category where
  | compile
  | binding
  | unboundVariable
  | runtime
deriving DecidableEq, Repr

namespace Category

def heading : Category → String
  | compile => "Compile error: "
  | binding => "Binding error: "
  | unboundVariable | runtime => ""

end Category

inductive Arity where
  | exactly (count : Nat)
  | between (least most : Nat)
  | atLeast (least : Nat)
deriving DecidableEq, Repr

namespace Arity

def accepts : Arity → Nat → Bool
  | exactly count, n => n == count
  | between least most, n => least ≤ n && n ≤ most
  | atLeast least, n => least ≤ n

def display : Arity → String
  | exactly count => toString count
  | between least most => s!"{least} to {most}"
  | atLeast least => s!"at least {least}"

end Arity

inductive CauseOf (V : Type) where
  -- compiling forms
  | parseProblem (text : String)
  | notCallable (head : String)
  | formArity (form : String) (arity : Arity) (count : Nat)
  | notSymbol (what found : String)
  | unknownKind (name : String)
  | letBindings
  | letBinding (found : String)
  | dletNames
  | dletRest
  | assignmentPairs (form : String)
  | condClause (found : String)
  | foreachHeader
  | catchShape
  | catchPlacement
  | finallyRepeated
  | finallyPlacement
  | pipeStep (found : String)
  | lambdaListShape (found : String)
  | formParameters
  | expressionParameters
  -- lambda lists
  | unknownMarker (token : String)
  | misplacedMarker (token : String)
  | secondPipe
  | danglingPipe
  | misplacedDefault (name : String)
  | secondRest (name : String)
  | duplicateName (name : String)
  | declarationShape
  | invalidDeclaration (found : String)
  -- binding arguments and names
  | tooFewArguments (least count : Nat)
  | tooManyArguments (most count : Nat)
  | tooFewOperands (op : ArithOp)
  | oddKeywords
  | keywordExpected (found : String)
  | keywordTwice (key : String)
  | unknownKeyword (key : String)
  | alreadyDefined (name : String)
  | selfReference
  | parametersSet
  | parametersUnset
  | registeredLate (name : String)
  | unbound (name : String)
  -- evaluation
  | divisionByZero
  | integerOverflow (x : Int64) (op : ArithOp) (y : Int64)
  | versionOperator (op : ArithOp)
  | versionOverflow (x : Version) (op : ArithOp) (y : Version)
  | negativeVersion (n : Int64)
  | badVersion (problem : VersionProblem)
  | badPattern
  | lazyNative (native parameter : String)
  | listMissing
  | argumentMissing (native : String)
  | typeMismatch (expected found : String)
  | undefinedFunction (name : String)
  | depthExceeded (limit : Nat)
  | thrown (kind : ErrorKind) (message : String) (payload : Option V)
  -- settings
  | unreadableSettings
  | invalidSettings
  | zeroDepth
  -- the embedding program
  | reported (category : Category) (kind : ErrorKind) (message : String)

namespace CauseOf

variable {V : Type}

def category : CauseOf V → Category
  | parseProblem _ | notCallable _ | formArity .. | notSymbol .. | unknownKind _ | letBindings
  | letBinding _ | dletNames | dletRest | assignmentPairs _ | condClause _ | foreachHeader
  | catchShape | catchPlacement | finallyRepeated | finallyPlacement | pipeStep _
  | lambdaListShape _ | formParameters | expressionParameters | unknownMarker _
  | misplacedMarker _ | secondPipe | danglingPipe | misplacedDefault _ | secondRest _
  | duplicateName _ | declarationShape | invalidDeclaration _ => .compile
  | tooFewArguments .. | tooManyArguments .. | tooFewOperands _ | oddKeywords | keywordExpected _
  | keywordTwice _ | unknownKeyword _ | alreadyDefined _ | selfReference | parametersSet
  | parametersUnset | registeredLate _ => .binding
  | unbound _ => .unboundVariable
  | divisionByZero | integerOverflow .. | versionOperator _ | versionOverflow .. | negativeVersion _
  | badVersion _ | badPattern | lazyNative .. | listMissing | argumentMissing _ | typeMismatch ..
  | undefinedFunction _ | depthExceeded _ | thrown .. | unreadableSettings | invalidSettings
  | zeroDepth => .runtime
  | reported category _ _ => category

def kind : CauseOf V → ErrorKind
  | parseProblem _ | notCallable _ | formArity .. | notSymbol .. | unknownKind _ | letBindings
  | letBinding _ | dletNames | dletRest | assignmentPairs _ | condClause _ | foreachHeader
  | catchShape | catchPlacement | finallyRepeated | finallyPlacement | pipeStep _
  | lambdaListShape _ | formParameters | expressionParameters | unknownMarker _
  | misplacedMarker _ | secondPipe | danglingPipe | misplacedDefault _ | secondRest _
  | duplicateName _ | declarationShape | invalidDeclaration _ => .compile
  | tooFewArguments .. | tooManyArguments .. | tooFewOperands _ => .arity
  | oddKeywords | keywordExpected _ | keywordTwice _ | unknownKeyword _ => .illegalArgument
  | alreadyDefined _ | selfReference | parametersSet | parametersUnset | registeredLate _ =>
      .illegalState
  | unbound _ => .unboundVariable
  | divisionByZero | integerOverflow .. | versionOperator _ | versionOverflow ..
  | negativeVersion _ => .arithmetic
  | badVersion _ | badPattern | lazyNative .. | listMissing | argumentMissing _
  | unreadableSettings | invalidSettings | zeroDepth => .illegalArgument
  | typeMismatch .. => .type
  | undefinedFunction _ => .undefinedFunction
  | depthExceeded _ => .stackOverflow
  | thrown kind _ _ => kind
  | reported _ kind _ => kind

def message : CauseOf V → String
  | parseProblem text => text
  | notCallable head => s!"{head} cannot be called"
  | formArity form arity count => s!"{form} expects {arity.display} arguments, got {count}"
  | notSymbol what found => s!"{what} must be a symbol, got {found}"
  | unknownKind name => s!"unknown exception kind {name}"
  | letBindings => "LET expects a list of bindings"
  | letBinding found => s!"LET binding must be name or (name value), got {found}"
  | dletNames => "DLET expects a list of names"
  | dletRest => "&REST in DLET must be followed by exactly one name"
  | assignmentPairs form => s!"{form} expects name/value pairs"
  | condClause found => s!"COND clause must be (test body...), got {found}"
  | foreachHeader => "FOREACH header must be (var source [result])"
  | catchShape => "CATCH clause must be (CATCH Kind var body...)"
  | catchPlacement => "CATCH must follow the body of TRY"
  | finallyRepeated => "TRY accepts a single FINALLY clause"
  | finallyPlacement => "FINALLY must be the last clause of TRY"
  | pipeStep found => s!"-> step must be a symbol or a call, got {found}"
  | lambdaListShape found => s!"parameter list expected, got {found}"
  | formParameters => "form does not take raw parameters"
  | expressionParameters => "expression does not take compiled parameters"
  | unknownMarker token => s!"unknown argument keyword {token}"
  | misplacedMarker token => s!"misplaced argument keyword {token}"
  | secondPipe => "only one &PIPE argument is allowed"
  | danglingPipe => "&PIPE must be followed by an argument"
  | misplacedDefault name => s!"argument {name} cannot declare a default outside &OPTIONAL or &KEY"
  | secondRest name => s!"only one &REST argument is allowed, found {name}"
  | duplicateName name => s!"duplicate argument name {name}"
  | declarationShape => "argument declaration must be (name [default [supplied-p]])"
  | invalidDeclaration found => s!"invalid argument declaration {found}"
  | tooFewArguments least count =>
      s!"insufficient arguments: expected at least {least}, got {count}"
  | tooManyArguments most count => s!"too many arguments: expected at most {most}, got {count}"
  | tooFewOperands op => s!"{op.symbol} expects at least 2 arguments"
  | oddKeywords => "odd number of keyword arguments: expected :key value pairs"
  | keywordExpected found => s!"expected a keyword, got {found}"
  | keywordTwice key => s!"keyword argument :{key} supplied twice"
  | unknownKeyword key => s!"unknown keyword argument :{key}"
  | alreadyDefined name => s!"variable {name} is already defined in this scope"
  | selfReference => "lazy argument refers to itself while being evaluated"
  | parametersSet => "parameters are already set"
  | parametersUnset => "node evaluated before its parameters were set"
  | registeredLate name => s!"{name} was registered after this call was compiled"
  | unbound name => s!"unbound variable {name}"
  | divisionByZero => "division by zero"
  | integerOverflow x op y => s!"integer overflow in {x.toInt} {op.symbol} {y.toInt}"
  | versionOperator op => s!"operator {op.symbol} is not defined for versions"
  | versionOverflow x op y =>
      s!"version component out of range in {x.display} {op.symbol} {y.display}"
  | negativeVersion n => s!"cannot promote negative number {n.toInt} to a version"
  | badVersion problem => problem.message
  | badPattern => "invalid regex: "
  | lazyNative native parameter =>
      s!"native {native} receives evaluated arguments; {parameter} cannot be &LAZY"
  | listMissing => "APPLY expects a trailing list"
  | argumentMissing native => s!"native {native} lacks an argument"
  | typeMismatch expected found => s!"expected {expected}, got {found}"
  | undefinedFunction name => s!"undefined function {name}"
  | depthExceeded limit => s!"evaluation depth limit exceeded (max: {limit})"
  | thrown _ message _ => message
  | unreadableSettings => "failed to read"
  | invalidSettings => "invalid options: "
  | zeroDepth => "invalid options: max-depth must be positive"
  | reported _ _ message => message

def payload : CauseOf V → Option V
  | thrown _ _ payload => payload
  | _ => none

def display (cause : CauseOf V) : String :=
  cause.category.heading ++ cause.kind.name ++ ": " ++ cause.message

end CauseOf

end LispEngine
