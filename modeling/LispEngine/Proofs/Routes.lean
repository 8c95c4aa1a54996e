import LispEngine.Proofs.BuiltIns
import LispEngine.Proofs.Parallel
import LispEngine.Proofs.Protection

/-!
# Ways to call a primitive function

The arithmetic functions, the comparisons and LIST take all values that they are called on. However
the call is written, by name, with FUNCALL or APPLY, or made by the embedding program, they compute
the same from these values, in their order, and fail with the same cause.
-/

namespace LispEngine

/-! ## What is computed -/

/-- What a function that takes any number of values computes from them. A comparison takes at least
one. -/
def Primitive.direct? : Primitive → List Value → Option (Except Cause Value)
  | arith op, vs => some (fold op vs)
  | compare relation, v :: vs => some (Value.bool <$> compareChain relation (v :: vs))
  | list, vs => some (.ok (.list vs))
  | _, _ => none

def Eval.Yields (expected : Except Cause Value) : EStateM.Result Signal World Value → Prop
  | .ok v _ => expected = .ok v
  | .error (.failed failure) _ => expected = .error failure.cause
  | .error _ _ => False

theorem run_bind_ok {ε σ α β : Type} {action : EStateM ε σ α} {next : α → EStateM ε σ β} {a : α}
    {before after : σ} (h : action before = .ok a after) :
    (action >>= next) before = next a after := by
  change EStateM.bind action next before = _
  unfold EStateM.bind
  rw [h]

namespace Eval

variable {expected : Except Cause Value} {world : World}

theorem yields_of_eq {result : EStateM.Result Signal World Value} {after : World}
    (h : result = ofExcept expected after) : Yields expected result := by
  rw [h]
  cases expected with
  | ok v => rfl
  | error cause => rfl

theorem yields_catchReturn {action : Eval Value} (h : Yields expected (action world)) :
    Yields expected (catchReturn action world) := by
  change Yields expected (EStateM.bind (observe action) _ world)
  unfold EStateM.bind observe
  cases hrun : action world with
  | ok v after =>
      rw [hrun] at h
      exact h
  | error signal after =>
      rw [hrun] at h
      cases signal with
      | failed failure => exact h
      | returned v => exact h.elim
      | exhausted => exact h.elim

private theorem cause_annotate (failure : Failure) (position : Option Position)
    (trace : Backtrace) :
    (failure.annotate position trace).cause = failure.cause := by
  cases position with
  | none => rfl
  | some position => rfl

variable {limit fuel : Nat} {scope : FrameId}

theorem yields_step {ev : Evaluator} {node : Node} (hroom : world.trace.size < limit)
    (h : Yields expected (code ev fuel scope node.code
      (world.entered ⟨node.name, node.position, scope⟩))) :
    Yields expected (step ev limit fuel scope node world) := by
  rw [step_room (Backtrace.isFull_eq_false.mpr hroom)]
  unfold EStateM.bind observe
  cases hrun : code ev fuel scope node.code (world.entered ⟨node.name, node.position, scope⟩) with
  | ok v after =>
      rw [hrun] at h
      exact h
  | error signal after =>
      rw [hrun] at h
      cases signal with
      | failed failure =>
          change expected = .error (failure.annotate node.position after.trace).cause
          rw [cause_annotate]
          exact h
      | returned v => exact h.elim
      | exhausted => exact h.elim

theorem step_value {ev : Evaluator} {node : Node} {v : Value} (hroom : world.trace.size < limit)
    (h : code ev fuel scope node.code (world.entered ⟨node.name, node.position, scope⟩) =
      .ok v (world.entered ⟨node.name, node.position, scope⟩)) :
    step ev limit fuel scope node world = .ok v world := by
  have hback : { world.entered ⟨node.name, node.position, scope⟩ with
      trace := (world.trace.push ⟨node.name, node.position, scope⟩).pop } = world := by
    rw [Backtrace.pop_push]
    rfl
  rw [step_room (Backtrace.isFull_eq_false.mpr hroom)]
  unfold EStateM.bind observe
  rw [h]
  exact congrArg (EStateM.Result.ok v) hback

/-! ## Constant nodes -/

theorem node_constant {node : Node} {v : Value} (h : node.constant? = some v)
    (hroom : world.trace.size < limit) :
    (evaluator limit (fuel + 1)).node scope node world = .ok v world := by
  change step _ limit fuel scope node world = _
  rw [step_constant h, Backtrace.isFull_eq_false.mpr hroom]
  rfl

theorem values_constant {nodes : List Node} {vs : List Value}
    (h : nodes.map Node.constant? = vs.map some) (hroom : world.trace.size < limit) :
    values (evaluator limit (fuel + 1)) scope nodes world = .ok vs world := by
  induction nodes generalizing vs with
  | nil =>
      obtain rfl : vs = [] := by simpa using h.symm
      rfl
  | cons node nodes ih =>
      cases vs with
      | nil => simp at h
      | cons v vs =>
          obtain ⟨hfirst, hrest⟩ := List.cons.inj h
          rw [values, run_bind_ok (node_constant hfirst hroom), run_bind_ok (ih hrest)]
          rfl

end Eval

/-! ## Binding -/

namespace Primitive

def directSpec : Primitive → LambdaList Node
  | compare _ => .ofList [⟨"x", .mandatory, none, none, false, false, false⟩,
      ⟨"more", .rest, none, none, false, false, false⟩]
  | list => .ofList [⟨"items", .rest, none, none, false, false, false⟩]
  | _ => .ofList [⟨"numbers", .rest, none, none, false, false, false⟩]

theorem parse_parameters {p : Primitive} {vs : List Value} {expected : Except Cause Value}
    (h : p.direct? vs = some expected) :
    (LambdaList.parse p.parameters : Except Cause (LambdaList Node)) = .ok p.directSpec := by
  have hrest : Marker.ofText? "&REST" = some .rest := by decide +kernel
  have hmarker : LambdaToken.isMarkerText "&REST" = true := by decide +kernel
  have hname : ∀ name ∈ ["numbers", "items", "more", "x"],
      LambdaToken.isMarkerText name = false := by decide +kernel
  simp only [List.forall_mem_cons] at hname
  unfold LambdaList.parse
  cases p with
  | arith _ | compare _ | list =>
      simp only [parameters, List.map_cons, List.map_nil, LambdaToken.ofText, hmarker, hname,
        LambdaList.ofTokens, LambdaReader.takeAll, LambdaReader.take, LambdaReader.takeMarker,
        hrest, if_true, Bool.false_eq_true, if_false]
      rfl
  | _ => simp [direct?] at h

private theorem bindArguments_rest (p : Parameter Node) (hp : p.role = .rest) (nodes : List Node) :
    bindArguments (.ofList [p]) nodes = .ok ⟨.ofList [p], [.rest nodes]⟩ := by
  simp [bindArguments, LambdaList.ofList, LambdaList.add, LambdaList.empty, LambdaList.countRole,
    LambdaList.restIndex?, LambdaList.hasKeywords, hp, bindKeywords, Role.isKeyword, distribute,
    pure, Except.pure, bind, Except.bind]

private theorem bindArguments_first_rest (p q : Parameter Node) (hp : p.role = .mandatory)
    (hq : q.role = .rest) (node : Node) (nodes : List Node) :
    bindArguments (.ofList [p, q]) (node :: nodes) =
      .ok ⟨.ofList [p, q], [.single node, .rest nodes]⟩ := by
  simp [bindArguments, LambdaList.ofList, LambdaList.add, LambdaList.empty, LambdaList.countRole,
    LambdaList.restIndex?, LambdaList.hasKeywords, hp, hq, bindKeywords, Role.isKeyword, distribute,
    pure, Except.pure, bind, Except.bind]

end Primitive

namespace Eval

variable {world : World} {limit fuel : Nat} {scope : FrameId}

private theorem argumentValues_rest {nodes : List Node} {vs : List Value}
    (h : nodes.map Node.constant? = vs.map some) (hroom : world.trace.size < limit) :
    argumentValues (evaluator limit (fuel + 1)) scope [.rest nodes] world =
      .ok [.list vs] world := by
  have hrest : argumentValue (evaluator limit (fuel + 1)) scope (.rest nodes) world =
      .ok (.list vs) world := by
    rw [argumentValue, run_bind_ok (values_constant h hroom)]
    rfl
  rw [argumentValues, run_bind_ok hrest]
  rfl

theorem bind_direct {p : Primitive} {nodes : List Node} {vs : List Value}
    {expected : Except Cause Value} (hdirect : p.direct? vs = some expected)
    (hnodes : nodes.map Node.constant? = vs.map some) (limit fuel : Nat) (scope : FrameId) :
    ∃ arguments args, bindArguments p.directSpec nodes = .ok arguments ∧
      (∀ world : World, world.trace.size < limit →
        argumentValues (evaluator limit (fuel + 1)) scope arguments.bound world = .ok args world) ∧
      p.run args = expected := by
  cases p with
  | arith op | list =>
      cases hdirect
      exact ⟨_, _, Primitive.bindArguments_rest _ rfl nodes,
        fun _ hroom => argumentValues_rest hnodes hroom, rfl⟩
  | compare relation =>
      cases vs with
      | nil => cases hdirect
      | cons v vs =>
          cases nodes with
          | nil => simp at hnodes
          | cons node nodes =>
              obtain ⟨hfirst, hothers⟩ := List.cons.inj hnodes
              cases hdirect
              refine ⟨_, [v, .list vs], Primitive.bindArguments_first_rest _ _ rfl rfl node nodes,
                ?_, ?_⟩
              · intro world hroom
                rw [argumentValues, argumentValue, run_bind_ok (node_constant hfirst hroom),
                  run_bind_ok (argumentValues_rest hothers hroom)]
                rfl
              · have hspread : spread [v, .list vs] = v :: vs := by simp [spread]
                rw [Primitive.run, hspread]
                cases compareChain relation (v :: vs) <;> rfl
  | _ => simp [Primitive.direct?] at hdirect

theorem bindSite_new {site : Nat} {nodes : List Node} {ref : FunctionRef} {spec : LambdaList Node}
    {arguments : BoundArguments} (hnew : world.cached? site = none)
    (hbind : bindArguments spec nodes = .ok arguments) :
    bindSite site nodes ref spec world =
      .ok arguments (world.remember site ⟨ref.id, arguments⟩) := by
  unfold bindSite
  rw [run_get_bind]
  simp only [hnew]
  rw [run_bind_ok (ofExcept_eq_ok_iff.mpr ⟨hbind, rfl⟩), run_modify_bind]
  rfl

theorem invoke_primitive {ev : Evaluator} {native : Native} {p : Primitive}
    {arguments : BoundArguments} {args : List Value} (hcode : native.code = .primitive p)
    (hargs : argumentValues ev scope arguments.bound world = .ok args world) :
    invoke ev scope (.native native) arguments world = ofExcept (p.run args) world := by
  rw [invoke, run_bind_ok hargs, hcode]
  rfl

theorem resolveFunction_named {ev : Evaluator} {name : String} {ref : FunctionRef}
    (h : Interpreter.functionNamed? world.defs name = some ref) :
    resolveFunction ev scope name world = .ok ref world := by
  unfold resolveFunction
  rw [run_get_bind, Definitions.functionNamed?_eq_some h]
  rfl

theorem spreadArguments_last (front items : List Value) (world : World) :
    spreadArguments (front ++ [.list items]) world = .ok (front ++ items) world := by
  induction front with
  | nil => rfl
  | cons v front ih =>
      have hcons : spreadArguments (v :: (front ++ [.list items])) =
          (do return v :: (← spreadArguments (front ++ [.list items]))) := by
        cases front <;> simp [spreadArguments]
      rw [List.cons_append, hcons, run_bind_ok ih]
      rfl

section Direct

variable {defs : Definitions} {p : Primitive} {ref : FunctionRef} {vs : List Value}
  {expected : Except Cause Value} (hp : defs.BuiltInAt p.name)
  (href : Interpreter.functionNamed? defs p.name = some ref)
  (hdirect : p.direct? vs = some expected)
include hp href hdirect

theorem exists_direct (hdefs : world.defs = defs) :
    ∃ native : Native, callableOf ref world = .ok (.native native) world ∧
      native.code = .primitive p ∧ (Callable.native native).spec = p.directSpec := by
  obtain ⟨native, hfunction, hcode, hspec⟩ := hp.primitive href
  rw [← hdefs] at hfunction
  exact ⟨native, callableOf_eq_ok hfunction, hcode,
    Except.ok.inj (hspec.symm.trans (Primitive.parse_parameters hdirect))⟩

theorem callFunction_direct (hdefs : world.defs = defs) (hroom : world.trace.size < limit) :
    callFunction (evaluator limit (fuel + 1)) ref vs world = ofExcept expected world := by
  obtain ⟨native, hcallable, hcode, hspec⟩ := exists_direct hp href hdirect hdefs
  have hnodes : (vs.map (Node.ofValue · none)).map Node.constant? = vs.map some := by
    simp [Node.ofValue, Node.constant?, CodeOf.constant?, Function.comp_def]
  obtain ⟨arguments, args, hbind, hargs, rfl⟩ := bind_direct hdirect hnodes limit fuel World.root
  rw [← hspec] at hbind
  rw [callFunction, run_bind_ok hcallable, run_bind_ok (ofExcept_eq_ok_iff.mpr ⟨hbind, rfl⟩),
    invoke_primitive hcode (hargs world hroom)]

private theorem callSite_direct {nodes : List Node}
    (hnodes : nodes.map Node.constant? = vs.map some)
    {site : Nat} (hdefs : world.defs = defs) (hroom : world.trace.size < limit)
    (hnew : world.cached? site = none) :
    ∃ after, callSite (evaluator limit (fuel + 1)) scope site nodes ref world =
      ofExcept expected after := by
  obtain ⟨native, hcallable, hcode, hspec⟩ := exists_direct hp href hdirect hdefs
  obtain ⟨arguments, args, hbind, hargs, rfl⟩ := bind_direct hdirect hnodes limit fuel scope
  rw [← hspec] at hbind
  refine ⟨world.remember site ⟨ref.id, arguments⟩, ?_⟩
  rw [callSite, run_bind_ok hcallable, run_bind_ok (bindSite_new hnew hbind),
    invoke_primitive hcode (hargs (world.remember site _) hroom)]

/-! ## Nodes -/

theorem yields_callNamed {nodes : List Node} (hnodes : nodes.map Node.constant? = vs.map some)
    {site : Nat} (hdefs : world.defs = defs) (hroom : world.trace.size + 1 < limit)
    (hnew : world.cached? site = none) (name : String) (position : Option Position) :
    Yields expected ((evaluator limit (fuel + 2)).node scope
      ⟨.callNamed site p.name nodes, name, position⟩ world) := by
  refine yields_step (by omega) ?_
  obtain ⟨after, hcall⟩ : ∃ after, callSite (evaluator limit (fuel + 1)) scope site nodes ref
      (world.entered ⟨name, position, scope⟩) = ofExcept expected after :=
    callSite_direct hp href hdirect hnodes hdefs
      (by simpa [World.entered, Backtrace.size_push] using hroom) hnew
  have hresolve : resolveFunction (evaluator limit (fuel + 1)) scope p.name
      (world.entered ⟨name, position, scope⟩) = .ok ref (world.entered ⟨name, position, scope⟩) :=
    resolveFunction_named (hdefs ▸ href)
  exact yields_of_eq ((run_bind_ok hresolve).trans hcall)

def Names (limit fuel : Nat) (scope : FrameId) (defs : Definitions) (ref : FunctionRef)
    (callee : Node) : Prop :=
  ∀ world : World, world.defs = defs → world.trace.size < limit →
    (evaluator limit (fuel + 1)).node scope callee world = .ok (.function ref) world

theorem yields_funcall {callee : Node} {nodes : List Node}
    (hcallee : Names limit fuel scope defs ref callee)
    (hnodes : nodes.map Node.constant? = vs.map some) (hdefs : world.defs = defs)
    (hroom : world.trace.size + 1 < limit) (name : String) (position : Option Position) :
    Yields expected ((evaluator limit (fuel + 2)).node scope
      ⟨.ofForm (.funcall callee nodes), name, position⟩ world) := by
  refine yields_step (by omega) ?_
  have hinner : (world.entered ⟨name, position, scope⟩).trace.size < limit := by
    simpa [World.entered, Backtrace.size_push] using hroom
  have hcall : funcall (evaluator limit (fuel + 1)) scope callee nodes
      (world.entered ⟨name, position, scope⟩) =
        ofExcept expected (world.entered ⟨name, position, scope⟩) := by
    rw [funcall, run_bind_ok (hcallee (world.entered ⟨name, position, scope⟩) hdefs hinner)]
    exact (run_bind_ok (values_constant hnodes hinner)).trans
      (callFunction_direct hp href hdirect hdefs hinner)
  exact yields_of_eq hcall

theorem yields_apply {callee : Node} {nodes : List Node} {front back : List Value}
    (hcallee : Names limit fuel scope defs ref callee) (hvs : vs = front ++ back)
    (hnodes : nodes.map Node.constant? = (front ++ [Value.list back]).map some)
    (hdefs : world.defs = defs) (hroom : world.trace.size + 1 < limit) (name : String)
    (position : Option Position) :
    Yields expected ((evaluator limit (fuel + 2)).node scope
      ⟨.ofForm (.applyList callee nodes), name, position⟩ world) := by
  refine yields_step (by omega) ?_
  have hinner : (world.entered ⟨name, position, scope⟩).trace.size < limit := by
    simpa [World.entered, Backtrace.size_push] using hroom
  have hcall : applyList (evaluator limit (fuel + 1)) scope callee nodes
      (world.entered ⟨name, position, scope⟩) =
        ofExcept expected (world.entered ⟨name, position, scope⟩) := by
    rw [applyList, run_bind_ok (hcallee (world.entered ⟨name, position, scope⟩) hdefs hinner)]
    refine (run_bind_ok (values_constant hnodes hinner)).trans ?_
    rw [run_bind_ok (spreadArguments_last front back _), ← hvs]
    exact callFunction_direct hp href hdirect hdefs hinner
  exact yields_of_eq hcall

end Direct

end Eval

/-! ## Forms -/

namespace Form

def applied (position : Position) (name : String) (arguments : List Form) : Form :=
  .ofItems (.ofSymbol name position :: arguments) position

def quoted (position : Position) (v : Value) : Form :=
  applied position SpecialForm.quote.name [.leaf v position none]

theorem firstProblem_quoted (position : Position) (v : Value) :
    (quoted position v).firstProblem = none := by
  simp [quoted, applied, ofItems, ofSymbol, firstProblem, firstProblemIn]

theorem firstProblemIn_quoted (position : Position) (vs : List Value) :
    firstProblemIn (vs.map (quoted position)) = none := by
  induction vs with
  | nil => rfl
  | cons v vs ih => rw [List.map_cons, firstProblemIn, firstProblem_quoted, ih]

end Form

def Node.quoted (position : Position) (v : Value) : Node :=
  ⟨.ofForm (.quote v), SpecialForm.quote.name, some position⟩

theorem constant?_quoted (position : Position) (vs : List Value) :
    (vs.map (Node.quoted position)).map Node.constant? = vs.map some := by
  simp [Node.quoted, Node.constant?, CodeOf.constant?, CodeOf.ofForm, FormOf.constant?,
    Function.comp_def]

section Compilation

open Compile

variable {defs : Definitions} {position : Position}

theorem compileWithin_applied (height : Nat) {name : String} {arguments : List Form} {code : Code}
    {count last : Nat}
    (h : compileOperator (compileWithin defs height) defs name arguments position count =
      .ok code last) :
    compileWithin defs (height + 1) (.applied position name arguments) count =
      .ok ⟨code, name, some position⟩ last := by
  change (do return ⟨← compileOperator (compileWithin defs height) defs name arguments position,
    name, some position⟩ : Compile Node) count = _
  rw [run_bind_ok h]
  rfl

theorem compileWithin_quoted (hquote : defs.BuiltInAt SpecialForm.quote.name) (height count : Nat)
    (v : Value) :
    compileWithin defs (height + 1) (.quoted position v) count =
      .ok (.quoted position v) count := by
  apply compileWithin_applied
  unfold compileOperator
  rw [hquote.form]
  rfl

theorem all_quoted (hquote : defs.BuiltInAt SpecialForm.quote.name) (height count : Nat)
    (vs : List Value) :
    all (compileWithin defs (height + 1)) (vs.map (.quoted position)) count =
      .ok (vs.map (.quoted position)) count := by
  induction vs with
  | nil => rfl
  | cons v vs ih =>
      rw [List.map_cons, all, run_bind_ok (compileWithin_quoted hquote height count v),
        run_bind_ok ih]
      rfl

theorem compile_applied {world : World} {name : String} {arguments : List Form} {code : Code}
    {last : Nat} (hfree : Form.firstProblemIn arguments = none)
    (h : compileOperator (compileWithin world.defs (Form.sizes arguments + 1)) world.defs name
      arguments position world.sites.size = .ok code last) :
    Interpreter.compile (.applied position name arguments) world =
      .ok ⟨code, name, some position⟩ (world.growSites last) := by
  have hproblem : (Form.applied position name arguments).firstProblem = none := by
    simpa [Form.applied, Form.ofItems, Form.ofSymbol, Form.firstProblem, Form.firstProblemIn]
      using hfree
  have hsize : (Form.applied position name arguments).size = Form.sizes arguments + 1 + 1 := by
    simp only [Form.applied, Form.ofItems, Form.ofSymbol, Form.size, Form.sizes]
    omega
  have hcompiled : compileChecked world.defs (.applied position name arguments) world.sites.size =
      .ok ⟨code, name, some position⟩ last := by
    unfold compileChecked compileForm
    rw [hproblem, hsize]
    exact compileWithin_applied _ h
  simp only [Interpreter.compile, Interpreter.compiling, hcompiled]

/-- The forms whose value is the function under a name: the form FUNCTION, and the function itself.
-/
inductive Form.Denotes (position : Position) (name : String) (ref : FunctionRef) : Form → Prop where
  | named : Denotes position name ref
      (.applied position SpecialForm.function.name [.ofSymbol name position])
  | quoted : Denotes position name ref (.quoted position (.function ref))

theorem Form.Denotes.firstProblem {name : String} {ref : FunctionRef} {callee : Form}
    (h : callee.Denotes position name ref) : callee.firstProblem = none := by
  cases h with
  | named => simp [applied, ofItems, ofSymbol, Form.firstProblem, firstProblemIn]
  | quoted => exact firstProblem_quoted position _

end Compilation

namespace Form.Denotes

variable {defs : Definitions} {position : Position} {name : String} {ref : FunctionRef}
  {callee : Form}

theorem compiles (h : callee.Denotes position name ref)
    (hquote : defs.BuiltInAt SpecialForm.quote.name)
    (hfunction : defs.BuiltInAt SpecialForm.function.name)
    (href : Interpreter.functionNamed? defs name = some ref) (limit fuel : Nat) (scope : FrameId) :
    ∃ node, (∀ height count, compileWithin defs (height + 1) callee count = .ok node count) ∧
      Eval.Names limit fuel scope defs ref node := by
  cases h with
  | named =>
      refine ⟨⟨.ofForm (.functionNamed name), SpecialForm.function.name, some position⟩, ?_, ?_⟩
      · intro height count
        apply compileWithin_applied
        unfold compileOperator
        rw [hfunction.form]
        rfl
      · intro world hdefs hroom
        apply Eval.step_value hroom
        have hresolve : Eval.resolveFunction (Eval.evaluator limit fuel) scope name
            (world.entered ⟨SpecialForm.function.name, some position, scope⟩) =
              .ok ref (world.entered ⟨SpecialForm.function.name, some position, scope⟩) :=
          Eval.resolveFunction_named (hdefs ▸ href)
        exact run_bind_ok hresolve
  | quoted =>
      exact ⟨.quoted position (.function ref),
        fun height count => compileWithin_quoted hquote height count _,
        fun world _ hroom => Eval.node_constant rfl hroom⟩

end Form.Denotes

namespace Interpreter

variable {world : World} {position : Position}

theorem yields_evalIn {ev : Evaluator} {scope : FrameId} {form : Form} {node : Node}
    {compiled : World} {expected : Except Cause Value} (h : compile form world = .ok node compiled)
    (hnode : Eval.Yields expected (ev.node scope node compiled)) :
    Eval.Yields expected (evalIn ev scope form world) := by
  rw [evalIn, run_bind_ok h]
  exact Eval.yields_catchReturn hnode

private theorem cached?_growSites (world : World) :
    (world.growSites (world.sites.size + 1)).cached? world.sites.size = none := by
  simp [World.cached?, World.growSites]

private theorem compile_named {name : String} {ref : FunctionRef} {vs : List Value}
    (hquote : world.defs.BuiltInAt SpecialForm.quote.name)
    (href : functionNamed? world.defs name = some ref) :
    compile (.applied position name (vs.map (.quoted position))) world =
      .ok ⟨.callNamed world.sites.size name (vs.map (.quoted position)), name, some position⟩
        (world.growSites (world.sites.size + 1)) := by
  apply compile_applied (Form.firstProblemIn_quoted position vs)
  unfold compileOperator
  rw [Definitions.functionNamed?_eq_some href]
  exact run_bind_ok (all_quoted hquote _ _ vs)

private theorem compile_expression {expression : SpecialExpression} {callee : Form} {node : Node}
    {parameters : BuiltIn} {vs : List Value} (hquote : world.defs.BuiltInAt SpecialForm.quote.name)
    (hexpression : world.defs.BuiltInAt expression.name) (hproblem : callee.firstProblem = none)
    (hcallee : ∀ height, compileWithin world.defs (height + 1) callee world.sites.size =
      .ok node world.sites.size)
    (hform : Special.compileExpression expression (node :: vs.map (.quoted position)) position =
      pure parameters) :
    compile (.applied position expression.name (callee :: vs.map (.quoted position))) world =
      .ok ⟨.ofForm parameters, expression.name, some position⟩
        (world.growSites world.sites.size) := by
  apply compile_applied
  · rw [Form.firstProblemIn, hproblem]
    exact Form.firstProblemIn_quoted position vs
  · have hall : Compile.all (compileWithin world.defs
        (Form.sizes (callee :: vs.map (.quoted position)) + 1))
        (callee :: vs.map (.quoted position)) world.sites.size =
          .ok (node :: vs.map (.quoted position)) world.sites.size := by
      rw [Compile.all, run_bind_ok (hcallee _), run_bind_ok (all_quoted hquote _ _ vs)]
      rfl
    unfold compileOperator
    rw [hexpression.expression]
    refine (run_bind_ok hall).trans ?_
    rw [hform]
    rfl

/-- A primitive function that takes any number of values computes from them, in their order, what it
computes directly, and fails with the same cause: called by its name on quoted values, by FUNCALL on
them, by APPLY on some of them and the list of the others, and by the embedding program. -/
theorem calls_yield_direct {p : Primitive} {ref : FunctionRef} {vs : List Value}
    {expected : Except Cause Value} {limit : Nat}
    (hbuiltIn : ∀ name ∈ [SpecialForm.quote.name, SpecialForm.function.name,
      SpecialExpression.funcall.name, SpecialExpression.apply.name, p.name],
      world.defs.BuiltInAt name)
    (href : functionNamed? world.defs p.name = some ref) (hdirect : p.direct? vs = some expected)
    (hroom : world.trace.size + 2 ≤ limit) (fuel : Nat) (scope : FrameId) {callee : Form}
    (hcallee : callee.Denotes position p.name ref) :
    let ev := Eval.evaluator limit (fuel + 2)
    Eval.Yields expected
      (evalIn ev scope (.applied position p.name (vs.map (.quoted position))) world) ∧
    Eval.Yields expected
      (evalIn ev scope (.applied position SpecialExpression.funcall.name
        (callee :: vs.map (.quoted position))) world) ∧
    (∀ front back, vs = front ++ back →
      Eval.Yields expected
        (evalIn ev scope (.applied position SpecialExpression.apply.name
          (callee :: (front ++ [Value.list back]).map (.quoted position))) world)) ∧
    Eval.Yields expected (call ev ref vs world) := by
  intro ev
  simp only [List.forall_mem_cons] at hbuiltIn
  obtain ⟨hquote, hfunction, hfuncall, happly, hp, -⟩ := hbuiltIn
  obtain ⟨node, hcompiles, hnames⟩ :=
    hcallee.compiles hquote hfunction href limit fuel scope
  refine ⟨?_, ?_, ?_, ?_⟩
  · apply yields_evalIn (compile_named hquote href)
    apply Eval.yields_callNamed hp href hdirect (constant?_quoted position vs)
    · rfl
    · exact hroom
    · exact cached?_growSites world
  · apply yields_evalIn (compile_expression hquote hfuncall hcallee.firstProblem
      (fun height => hcompiles height _) rfl)
    apply Eval.yields_funcall hp href hdirect hnames (constant?_quoted position vs)
    · rfl
    · exact hroom
  · intro front back hvs
    have hform : Special.compileExpression .apply
        (node :: (front ++ [Value.list back]).map (.quoted position)) position =
          pure (.applyList node ((front ++ [Value.list back]).map (.quoted position))) := by
      cases front <;> rfl
    apply yields_evalIn (compile_expression hquote happly hcallee.firstProblem
      (fun height => hcompiles height _) hform)
    apply Eval.yields_apply hp href hdirect hnames hvs (constant?_quoted position _)
    · rfl
    · exact hroom
  · apply Eval.yields_catchReturn
    apply Eval.yields_of_eq
    exact Eval.callFunction_direct hp href hdirect rfl (by omega)

/-- LIST makes a list of its arguments also when the last of them is a list: in a call by name, and
in APPLY, where only the list that APPLY itself takes is taken apart. -/
theorem calls_yield_direct_empty_list :
    let world := World.initial .raise
    let vs : List Value := [.int 1, .list []]
    let callee := Form.applied .start SpecialForm.function.name [.ofSymbol "LIST" .start]
    functionNamed? world.defs "LIST" = some ⟨11, "LIST"⟩ ∧
    Eval.Yields (.ok (.list vs)) (evalIn (Eval.evaluator 2 2) World.root
      (.applied .start "LIST" (vs.map (.quoted .start))) world) ∧
    Eval.Yields (.ok (.list vs)) (evalIn (Eval.evaluator 2 2) World.root
      (.applied .start "APPLY" (callee :: [Value.int 1, .list [.list []]].map (.quoted .start)))
      world) := by
  intro world vs callee
  have href : functionNamed? world.defs "LIST" = some ⟨11, "LIST"⟩ := by decide +kernel
  have hbuiltIn : ∀ name ∈ [SpecialForm.quote.name, SpecialForm.function.name,
      SpecialExpression.funcall.name, SpecialExpression.apply.name, Primitive.list.name],
      world.defs.BuiltInAt name :=
    fun _ _ => ⟨rfl, fun _ _ => rfl⟩
  have hdirect : Primitive.list.direct? vs = some (.ok (.list vs)) := rfl
  have hroom : world.trace.size + 2 ≤ 2 := Nat.le_refl 2
  obtain ⟨hnamed, -, hspread, -⟩ :=
    calls_yield_direct hbuiltIn href hdirect hroom 0 World.root .named
  exact ⟨href, hnamed, hspread [.int 1] [.list []] rfl⟩

end Interpreter

end LispEngine
