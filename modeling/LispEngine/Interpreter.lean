import LispEngine.Compiler.Compile
import LispEngine.Eval.Node
import LispEngine.Settings

/-!
# Interpreters

An interpreter is a world with the settings that its evaluations obey. Programs are compiled and run
in it one form after the other, and the embedding program adds operators and functions to it.
-/

namespace LispEngine

structure Interpreter where
  settings : Settings
  world : World

namespace Interpreter

def new (settings : Settings) : Interpreter := ⟨settings, .initial settings.missing⟩

abbrev Result (α : Type) := Except Signal α × Interpreter

/-- Runs an evaluation, starting with no other one in progress. -/
def run {α : Type} (interpreter : Interpreter) (action : Eval α) : Result α :=
  match action { interpreter.world with trace := .empty } with
  | .ok a world => (.ok a, { interpreter with world })
  | .error signal world => (.error signal, { interpreter with world })

def evaluator (interpreter : Interpreter) (fuel : Nat) : Evaluator :=
  Eval.evaluator interpreter.settings.maxDepth fuel

def compiling {α : Type} (compilation : Definitions → Compile α) : Eval α := fun world =>
  match compilation world.defs world.sites.size with
  | .ok a count => .ok a (world.growSites count)
  | .error signal count => .error signal (world.growSites count)

def compile (form : Form) : Eval Node := compiling fun defs => compileChecked defs form

/-- Compiles a form, noticing only the problems of the forms that are compiled. -/
def compileDirect (form : Form) : Eval Node := compiling fun defs => compileForm defs form

def compileParameters (forms : List Form) : Eval (LambdaList Node) :=
  compiling fun defs => lambdaList (compileForm defs) forms

/-- Evaluates a node. A return that no function call ends is its value. -/
def evalNode (ev : Evaluator) (scope : FrameId) (node : Node) : Eval Value :=
  Eval.catchReturn (ev.node scope node)

def evalIn (ev : Evaluator) (scope : FrameId) (form : Form) : Eval Value := do
  let node ← compile form
  evalNode ev scope node

def eval (ev : Evaluator) (form : Form) : Eval Value := evalIn ev World.root form

/-- Evaluates forms one after the other, compiling each when those before it have been evaluated. -/
def evalAll (ev : Evaluator) : Value → List Form → Eval Value
  | last, [] => pure last
  | _, form :: forms => do
      let v ← eval ev form
      evalAll ev v forms

def call (ev : Evaluator) (ref : FunctionRef) (arguments : List Value) : Eval Value :=
  Eval.catchReturn (Eval.callFunction ev ref arguments)

/-! ## Definitions -/

def modifyDefs (change : Definitions → Definitions) : Eval Unit :=
  modify fun world => { world with defs := change world.defs }

def registerForm (name doc : String)
    (accept : List Form → Position → Except Failure HostAction) : Eval Unit :=
  modifyDefs fun defs => defs.install name ⟨.form (.host accept), some doc⟩

def registerExpression (name doc : String)
    (accept : Nat → Position → Except Failure HostAction) : Eval Unit :=
  modifyDefs fun defs => defs.install name ⟨.expression (.host accept), some doc⟩

/-- Adds a function of the embedding program. Its arguments are evaluated before it runs, so none of
its parameters may be lazy. -/
def registerNative (name : String) (parameters : List String) (doc : String)
    (run : Backtrace → List Value → HostAction) : Eval Unit := do
  let spec ← Eval.ofExcept (LambdaList.parse parameters)
  match spec.parameters.find? (·.isLazy) with
  | some parameter => Eval.fail (.lazyNative name parameter.name)
  | none => modifyDefs fun defs => defs.addNative name spec doc (.host run)

def defineFunction (name : String) (ref : FunctionRef) : Eval Unit :=
  modifyDefs fun defs => defs.defineFunction name ref

def documentation (defs : Definitions) (name : String) : Option String :=
  (defs.entry? name).bind Entry.doc

def functionNamed? (defs : Definitions) (name : String) : Option FunctionRef :=
  match (defs.entry? name).map Entry.kind with
  | some (.function ref) => some ref
  | _ => none

end Interpreter

end LispEngine
