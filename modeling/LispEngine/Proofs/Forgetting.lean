import LispEngine.Proofs.Caching
import LispEngine.Proofs.Session

/-!
# Forgetting what call sites remember

An embedding program asks for evaluations, compilations and changes, one after the other, and may
use what it was answered in what it asks for later. It cannot tell whether call sites have forgotten
what they remember, be it between two turns or at any moment of an evaluation.
-/

namespace LispEngine

/-! ## Evaluators that forget -/

namespace Eval

def forgetting (forget : World → World) (action : Eval Value) : Eval Value := do
  modify forget
  let outcome ← observe action
  modify forget
  resume outcome

mutual

/-- Evaluates a node, with call sites forgetting whenever a node is entered or left. -/
def nodeForgetting (forget : World → World) (limit : Nat) : Nat → FrameId → Node → Eval Value
  | 0, _, _ => throw .exhausted
  | fuel + 1, scope, node =>
      forgetting forget
        (step ⟨nodeForgetting forget limit fuel, callForgetting forget limit fuel⟩ limit fuel
          scope node)

def callForgetting (forget : World → World) (limit : Nat) :
    Nat → FunctionRef → List Value → Eval Value
  | 0, _, _ => throw .exhausted
  | fuel + 1, ref, arguments =>
      catchReturn
        (callFunction ⟨nodeForgetting forget limit fuel, callForgetting forget limit fuel⟩ ref
          arguments)

end

def evaluatorForgetting (forget : World → World) (limit fuel : Nat) : Evaluator :=
  ⟨nodeForgetting forget limit fuel, callForgetting forget limit fuel⟩

variable {log : SiteLog} {forget : World → World}
  (hforget : ∀ world : World, world.Forgets (forget world))

include hforget

private theorem forget_agree {world twin : World} (h : Twins log world twin) :
    Twins log world (forget twin) := by
  obtain ⟨sites, rfl⟩ := h.same
  obtain ⟨others, hothers⟩ := (hforget (world.withSites sites)).same
  exact ⟨⟨others, hothers⟩, h.left, h.right.forget (hforget _)⟩

private theorem forgetting_agree {first second : Eval Value} (h : Agree (.twins log) first second) :
    Agree (.twins log) first (forgetting forget second) := by
  intro world twin htwins
  have hsame := h world (forget twin) (forget_agree hforget htwins)
  have hrun : forgetting forget second twin =
      EStateM.bind (observe second) (fun outcome => do modify forget; resume outcome)
        (forget twin) := rfl
  rw [hrun]
  unfold EStateM.bind observe
  generalize first world = result, second (forget twin) = other at hsame
  cases hsame with
  | ok after => exact .ok (forget_agree hforget after)
  | @error signal _ _ after =>
      cases signal with
      | exhausted => exact .error after
      | failed failure => exact .error (forget_agree hforget after)
      | returned v => exact .error (forget_agree hforget after)

theorem evaluatorForgetting_agree (limit fuel : Nat) :
    (evaluator limit fuel).Agree (.twins log) (evaluatorForgetting forget limit fuel) := by
  induction fuel with
  | zero => exact ⟨fun _ => .throw _, fun _ _ => .throw _⟩
  | succ fuel ih =>
      exact ⟨fun hvisit => forgetting_agree hforget (step_agree ih limit fuel hvisit),
        fun ref arguments => (callFunction_agree ih ref arguments).catchReturn⟩

end Eval

/-! ## Answers -/

inductive Answer where
  | done
  | value (v : Value)
  | values (vs : List Value)
  | frame (id : FrameId)
  | thunk (id : ThunkId)
  | node (node : Node)
  | parameters (spec : LambdaList Node)

def Answer.nodes : Answer → List Node
  | node compiled => [compiled]
  | parameters spec => LambdaParts.defaults spec
  | _ => []

def BoundArguments.nodes (arguments : BoundArguments) : List Node :=
  LambdaParts.defaults arguments.spec ++ arguments.bound.flatMap Bound.nodes

namespace Routine

def answer (ev : Evaluator) : Routine → Eval Answer
  | evaluate scope node => do return .value (← ev.node scope node)
  | invoke caller callable arguments => do
      return .value (← Eval.invoke ev caller callable arguments)
  | call callee arguments => do return .value (← Eval.callFunction ev callee arguments)
  | frame caller defining arguments => do
      return .frame (← Eval.callFrame ev caller defining arguments)
  | values caller bounds => do return .values (← Eval.argumentValues ev caller bounds)
  | force thunk => do return .value (← Eval.force ev thunk)

def nodes : Routine → List Node
  | evaluate _ node => [node]
  | invoke _ callable arguments => callable.nodes ++ arguments.nodes
  | frame _ _ arguments => arguments.nodes
  | values _ bounds => bounds.flatMap Bound.nodes
  | call _ _ | force _ => []

end Routine

namespace Move

def answer (ev : Evaluator) : Move → Eval Answer
  | evaluation routine => routine.answer ev
  | compile form => do return .node (← Interpreter.compile form)
  | compileDirect form => do return .node (← Interpreter.compileDirect form)
  | compileParameters forms => do return .parameters (← Interpreter.compileParameters forms)
  | defer node scope => do return .thunk (← modifyGet fun world => world.addThunk node scope)
  | newRoot missing => do return .frame (← modifyGet fun world => world.addFrame (.root missing))
  | newChild parent => do return .frame (← Eval.addChild parent)
  | change => do
      change.perform ev
      return .done

def nodes : Move → List Node
  | evaluation routine => routine.nodes
  | defer node _ => [node]
  | _ => []

end Move

def SameAnswer (log : SiteLog) (result other : EStateM.Result Signal World Answer) : Prop :=
  ∃ later, log <+: later ∧ Eval.SameResult (Twins later) result other ∧
    ∀ answer after, result = .ok answer after → ∀ node ∈ answer.nodes, node.Sited later

namespace Eval

variable {α : Type} {log : SiteLog} {world twin : World} (htwins : Twins log world twin)

include htwins

theorem sameAnswer_of_agree {first second : Eval α} (h : Agree (.twins log) first second)
    {answer : α → Answer} (hanswer : ∀ a, (answer a).nodes = []) :
    SameAnswer log ((first >>= fun a => pure (answer a)) world)
      ((second >>= fun a => pure (answer a)) twin) := by
  refine ⟨log, List.prefix_refl log, (h.bind fun a => .pure (answer a)) world twin htwins, ?_⟩
  intro given after hrun node hnode
  obtain ⟨a, middle, -, hpure⟩ := bind_eq_ok_iff.mp hrun
  cases hpure
  rw [hanswer] at hnode
  cases hnode

private theorem sameAnswer_of_numbers {compilation : Definitions → Compile α} {answer : α → Answer}
    (h : ∀ defs, Compile.Numbers [] (Compile.Holding fun a => (answer a).nodes)
      (compilation defs)) :
    SameAnswer log ((Interpreter.compiling compilation >>= fun a => pure (answer a)) world)
      ((Interpreter.compiling compilation >>= fun a => pure (answer a)) twin) := by
  obtain ⟨⟨sites, rfl⟩, hleft, hright⟩ := htwins
  have hgrown {later : SiteLog} (hlater : log <+: later) :
      Twins later (world.growSites later.length)
        ((world.withSites sites).growSites later.length) :=
    ⟨⟨_, rfl⟩, hleft.growSites hlater, hright.growSites hlater⟩
  have hlogs := h world.defs log (by simp)
  -- both worlds compile with the same definitions, from the same number on
  change SameAnswer log
    (EStateM.bind (Interpreter.compiling compilation) (fun a => pure (answer a)) world)
    (EStateM.bind (Interpreter.compiling compilation) (fun a => pure (answer a))
      (world.withSites sites))
  have hdefs : (world.withSites sites).defs = world.defs := rfl
  have hsites : (world.withSites sites).sites.size = log.length := hright.size
  unfold EStateM.bind Interpreter.compiling
  rw [hdefs, hsites, hleft.size]
  cases hcompiled : compilation world.defs log.length with
  | ok a count =>
      rw [hcompiled] at hlogs
      obtain ⟨later, hlater, rfl, hnodes⟩ := hlogs
      refine ⟨later, hlater, .ok (hgrown hlater), ?_⟩
      rintro _ _ ⟨⟩
      exact hnodes
  | error signal count =>
      rw [hcompiled] at hlogs
      -- the numbers that a failed compilation has used up stand for calls without arguments
      have hlater : log <+: log ++ List.replicate (count - log.length) [] :=
        List.prefix_append log _
      have hlength : (log ++ List.replicate (count - log.length) ([] : List Node)).length =
        count := by
        have : log.length ≤ count := hlogs
        simp only [List.length_append, List.length_replicate]
        omega
      refine ⟨_, hlater, .error ?_, ?_⟩
      · have htwins := hgrown hlater
        rw [hlength] at htwins
        exact htwins
      · rintro _ _ ⟨⟩

end Eval

section Moves

open Eval

variable {log : SiteLog} {ev ev' : Evaluator} (h : ev.Agree (.twins log) ev') {world twin : World}
  (htwins : Twins log world twin)

private theorem registerNative_agree (name : String) (parameters : List String) (doc : String)
    (run : Backtrace → List Value → HostAction) :
    Agree (.twins log) (Interpreter.registerNative name parameters doc run)
      (Interpreter.registerNative name parameters doc run) := by
  have hread := LambdaReader.parse_reads (N := fun _ => False) parameters
  unfold Interpreter.registerNative
  cases hspec : (LambdaList.parse parameters : Except Cause (LambdaList Node)) with
  | error cause => exact .fail cause
  | ok spec =>
      rw [hspec] at hread
      let native : Callable := .native ⟨Text.canonical name, spec, some doc, .host run⟩
      have hplain : native.Plain := List.eq_nil_iff_forall_not_mem.mpr hread
      have hnodes : ∀ node ∈ native.nodes, (Likeness.twins log).Common node :=
        fun node hnode => (hread node hnode).elim
      have hinstall (ref : FunctionRef) :
          let install (world : World) : World :=
            { world with defs := world.defs.install name ⟨.function ref, some doc⟩ }
          Agree (.twins log) (modify install) (modify install) :=
        .modify (fun _ _ _ => rfl) fun _ => ⟨rfl, rfl, rfl⟩
      simp only [Eval.ofExcept, pure_bind]
      split
      · exact .fail _
      · exact (addFunction_agree hplain trivial hnodes).bind hinstall

include h htwins

theorem Routine.sameAnswer {routine : Routine} (hnodes : ∀ node ∈ routine.nodes, node.Sited log) :
    SameAnswer log (routine.answer ev world) (routine.answer ev' twin) := by
  have hcommon {node : Node} (hnode : node ∈ routine.nodes) :
      (Likeness.twins log).Common node := fun _ => ⟨rfl, hnodes node hnode⟩
  have hbounds {bounds : List Bound} (caller : FrameId)
      (hinside : bounds.flatMap Bound.nodes ⊆ routine.nodes) :
      ∀ bound ∈ bounds, ∀ node ∈ bound.nodes, (Likeness.twins log).visits node caller caller :=
    fun bound hbound node hnode =>
      hcommon (hinside (List.mem_flatMap.mpr ⟨bound, hbound, hnode⟩)) caller
  cases routine with
  | evaluate scope node =>
      have hnode : node ∈ (Routine.evaluate scope node).nodes := by simp [Routine.nodes]
      exact sameAnswer_of_agree htwins (h.common scope (hcommon hnode)) fun _ => rfl
  | invoke caller callable arguments =>
      refine sameAnswer_of_agree htwins (invoke_agree h ?_ ?_ (hbounds caller ?_)) fun _ => rfl
      · exact fun node hnode => hcommon (by simp [Routine.nodes, hnode])
      · exact fun node hnode => hcommon (by simp [Routine.nodes, BoundArguments.nodes, hnode])
      · exact fun node hnode => by
          simp only [Routine.nodes, BoundArguments.nodes, List.mem_append]
          exact .inr (.inr hnode)
  | call callee arguments =>
      exact sameAnswer_of_agree htwins (callFunction_agree h callee arguments) fun _ => rfl
  | frame caller defining arguments =>
      refine sameAnswer_of_agree htwins
        (callFrame_agree h defining ?_ (hbounds caller ?_)) fun _ => rfl
      · exact fun node hnode => hcommon (by simp [Routine.nodes, BoundArguments.nodes, hnode])
      · exact List.subset_append_right _ _
  | values caller bounds =>
      exact sameAnswer_of_agree htwins
        (argumentValues_agree h (hbounds caller (List.Subset.refl _))) fun _ => rfl
  | force thunk => exact sameAnswer_of_agree htwins (force_agree h thunk) fun _ => rfl

theorem Move.sameAnswer {move : Move} (hnodes : ∀ node ∈ move.nodes, node.Sited log) :
    SameAnswer log (move.answer ev world) (move.answer ev' twin) := by
  have hdone {first second : Eval Unit} (hagree : Agree (.twins log) first second) :
      SameAnswer log ((first >>= fun _ => pure .done) world)
        ((second >>= fun _ => pure .done) twin) :=
    sameAnswer_of_agree htwins hagree fun _ => rfl
  cases move with
  | evaluation routine => exact routine.sameAnswer h htwins hnodes
  | compile form =>
      exact sameAnswer_of_numbers htwins fun defs => compileChecked_numbers defs [] form
  | compileDirect form =>
      exact sameAnswer_of_numbers htwins fun defs => compileForm_numbers defs [] form
  | compileParameters forms =>
      exact sameAnswer_of_numbers htwins fun defs =>
        (compileForm_numbers defs).lambdaList_numbers forms
  | defer node scope =>
      have hnode : node.Sited log := hnodes node (by simp [Move.nodes])
      exact sameAnswer_of_agree htwins (addThunk_agree ⟨rfl, hnode⟩) fun _ => rfl
  | newRoot missing =>
      exact sameAnswer_of_agree htwins
        (.modifyGet (fun _ _ _ => rfl) fun _ => ⟨rfl, rfl, rfl⟩) fun _ => rfl
  | newChild parent => exact sameAnswer_of_agree htwins (addChild_agree parent) fun _ => rfl
  | define scope name v => exact hdone (define_agree scope name v)
  | setLocal scope name v => exact hdone (setLocal_agree scope name v)
  | update discipline scope name v => exact hdone (update_agree discipline scope name v)
  | remove scope name =>
      refine hdone (.modify (fun world thunks sites =>
        world.remove_withStores thunks sites scope name) ?_)
      intro world
      rw [World.remove_eq]
      exact ⟨rfl, rfl, rfl⟩
  | setProperty scope name key v =>
      exact hdone (.modify (fun world thunks sites =>
        world.setProperty_withStores thunks sites scope name key v) fun _ => ⟨rfl, rfl, rfl⟩)
  | defineFunction name ref =>
      exact hdone (.modify (fun _ _ _ => rfl) fun _ => ⟨rfl, rfl, rfl⟩)
  | registerForm name doc accept =>
      exact hdone (.modify (fun _ _ _ => rfl) fun _ => ⟨rfl, rfl, rfl⟩)
  | registerExpression name doc accept =>
      exact hdone (.modify (fun _ _ _ => rfl) fun _ => ⟨rfl, rfl, rfl⟩)
  | registerNative name parameters doc run =>
      exact hdone (registerNative_agree name parameters doc run)

end Moves

/-! ## Dialogues -/

/-- A move, with the evaluations in progress when it is made and the steps that it is given. -/
structure Turn where
  move : Move
  trace : Backtrace
  fuel : Nat

/-- A world, and the nodes that the embedding program was handed. -/
structure Dialogue where
  world : World
  held : List Node

namespace Dialogue

def start (missing : MissingPolicy) : Dialogue := ⟨.initial missing, []⟩

def ask (ev : Nat → Evaluator) (dialogue : Dialogue) (turn : Turn) :
    Except Signal Answer × Dialogue :=
  match turn.move.answer (ev turn.fuel) { dialogue.world with trace := turn.trace } with
  | .ok answer after => (.ok answer, ⟨after, answer.nodes ++ dialogue.held⟩)
  | .error signal after => (.error signal, ⟨after, dialogue.held⟩)

def askAll (ev : Nat → Evaluator) : Dialogue → List Turn → List (Except Signal Answer) × Dialogue
  | dialogue, [] => ([], dialogue)
  | dialogue, turn :: turns =>
      let first := dialogue.ask ev turn
      let rest := first.2.askAll ev turns
      (first.1 :: rest.1, rest.2)

theorem held_subset_ask (ev : Nat → Evaluator) (dialogue : Dialogue) (turn : Turn) :
    dialogue.held ⊆ (dialogue.ask ev turn).2.held := by
  unfold ask
  split
  · exact List.subset_append_right _ _
  · exact List.Subset.refl _

/-- The nodes that an embedding program can come by: those that it was handed, those in the
functions and the deferred arguments of the world, the nodes inside them, and what it builds around
them. The compiler alone makes calls. -/
inductive Knows (dialogue : Dialogue) : Node → Prop where
  | held {node : Node} (handed : node ∈ dialogue.held) : Knows dialogue node
  | function {index : Nat} {callable : Callable} {node : Node}
      (found : dialogue.world.defs.functions[index]? = some callable)
      (inside : node ∈ callable.nodes) : Knows dialogue node
  | deferred {index : Nat} {node : Node} {scope : FrameId}
      (found : dialogue.world.thunks[index]? = some (.pending node scope)) : Knows dialogue node
  | inner {outer node : Node} (known : Knows dialogue outer)
      (inside : node ∈ outer.code.children) : Knows dialogue node
  | built {node : Node} (plain : node.code.site? = none)
      (parts : ∀ child ∈ node.code.children, Knows dialogue child) : Knows dialogue node

def Allows (ev : Nat → Evaluator) : Dialogue → List Turn → Prop
  | _, [] => True
  | dialogue, turn :: turns =>
      (∀ node ∈ turn.move.nodes, dialogue.Knows node) ∧
        (dialogue.ask ev turn).2.Allows ev turns

structure InStep (log : SiteLog) (dialogue other : Dialogue) : Prop where
  twins : Twins log dialogue.world other.world
  held : other.held = dialogue.held
  sited : ∀ node ∈ dialogue.held, node.Sited log

theorem InStep.knows {log : SiteLog} {dialogue other : Dialogue} (h : InStep log dialogue other)
    {node : Node} (hknows : dialogue.Knows node) : node.Sited log := by
  induction hknows with
  | held handed => exact h.sited _ handed
  | function found inside => exact h.twins.left.functions found _ inside
  | deferred found => exact h.twins.left.thunks found
  | inner known inside ih => exact ih.inner _ inside
  | built plain parts ih => exact .of_children plain ih

theorem start_inStep (missing : MissingPolicy) : InStep [] (start missing) (start missing) := by
  have hinitial : Definitions.initial.functions.toList.all (·.nodes.isEmpty) = true := by
    decide +kernel
  have hbare : ∀ callable ∈ Definitions.initial.functions, callable.nodes = [] := by
    intro callable hmem
    exact List.isEmpty_iff.mp (List.all_eq_true.mp hinitial callable
      (Array.mem_toList_iff.mpr hmem))
  have hlogged : (World.initial missing).Logged [] := {
    size := rfl
    cached := by
      intro site call hcached
      simp [World.cached?, World.initial] at hcached
    thunks := by
      intro index node scope hthunk
      simp [World.initial] at hthunk
    functions := by
      intro index callable hfunction node hnode
      rw [hbare callable (Array.mem_of_getElem? hfunction)] at hnode
      cases hnode
    plain := by
      intro callable hmem
      cases callable with
      | closure closure => trivial
      | native native => exact hbare (.native native) hmem }
  exact ⟨⟨⟨_, rfl⟩, hlogged, hlogged⟩, rfl, by simp [start]⟩

section Steps

variable {ev ev' : Nat → Evaluator} (hev : ∀ log fuel, (ev fuel).Agree (.twins log) (ev' fuel))
  {log : SiteLog} {dialogue other : Dialogue}

include hev

theorem ask_inStep (h : InStep log dialogue other) {turn : Turn}
    (hknows : ∀ node ∈ turn.move.nodes, dialogue.Knows node) :
    (other.ask ev' turn).1 = (dialogue.ask ev turn).1 ∧
      ∃ later, InStep later (dialogue.ask ev turn).2 (other.ask ev' turn).2 := by
  have htwins : Twins log { dialogue.world with trace := turn.trace }
      { other.world with trace := turn.trace } :=
    Likeness.withTrace (L := .twins log) h.twins turn.trace
  obtain ⟨later, hlater, hsame, hnodes⟩ := Move.sameAnswer (hev log turn.fuel) htwins
    fun node hnode => h.knows (hknows node hnode)
  have hsited : ∀ node ∈ dialogue.held, node.Sited later :=
    fun node hnode => (h.sited node hnode).mono hlater
  unfold ask
  generalize turn.move.answer (ev turn.fuel) _ = result,
    turn.move.answer (ev' turn.fuel) _ = answered at hsame hnodes
  cases hsame with
  | ok after =>
      refine ⟨rfl, later, after, by rw [h.held], ?_⟩
      exact List.forall_mem_append.mpr ⟨hnodes _ _ rfl, hsited⟩
  | error after => exact ⟨rfl, later, after, h.held, hsited⟩

private theorem askAll_inStep (h : InStep log dialogue other) {turns : List Turn}
    (hallows : dialogue.Allows ev turns) :
    (other.askAll ev' turns).1 = (dialogue.askAll ev turns).1 ∧
      ∃ later, InStep later (dialogue.askAll ev turns).2 (other.askAll ev' turns).2 := by
  induction turns generalizing log dialogue other with
  | nil => exact ⟨rfl, log, h⟩
  | cons turn turns ih =>
      obtain ⟨hanswer, middle, hmiddle⟩ := ask_inStep hev h hallows.1
      obtain ⟨hanswers, later, hlater⟩ := ih hmiddle hallows.2
      refine ⟨?_, later, hlater⟩
      simp only [askAll, hanswer, hanswers]

end Steps

end Dialogue

/-- After any dialogue, let call sites forget what they remember, at once and then at every moment
of every later evaluation. The later turns get the same answers, values and failures alike, and the
world after them is the same up to what its call sites remember. -/
theorem forgetting_unobservable {limit : Nat} {missing : MissingPolicy} {history later : List Turn}
    {reached : Dialogue} (hhistory : (Dialogue.start missing).Allows (Eval.evaluator limit) history)
    (hreached : reached = ((Dialogue.start missing).askAll (Eval.evaluator limit) history).2)
    {erased : World} (herased : reached.world.Forgets erased) {forget : World → World}
    (hforget : ∀ world : World, world.Forgets (forget world))
    (hlater : reached.Allows (Eval.evaluator limit) later) :
    ((⟨erased, reached.held⟩ : Dialogue).askAll (Eval.evaluatorForgetting forget limit) later).1 =
        (reached.askAll (Eval.evaluator limit) later).1 ∧
      ∃ sites, ((⟨erased, reached.held⟩ : Dialogue).askAll
          (Eval.evaluatorForgetting forget limit) later).2.world =
        (reached.askAll (Eval.evaluator limit) later).2.world.withSites sites := by
  subst hreached
  obtain ⟨-, log, hreached⟩ :=
    Dialogue.askAll_inStep (fun _ fuel => Eval.evaluator_agree limit fuel)
    (Dialogue.start_inStep missing) hhistory
  have hstart : Dialogue.InStep log _ ⟨erased, _⟩ :=
    ⟨⟨herased.same, hreached.twins.left, hreached.twins.left.forget herased⟩, rfl, hreached.sited⟩
  obtain ⟨hanswers, _, hend⟩ := Dialogue.askAll_inStep
    (fun _ fuel => Eval.evaluatorForgetting_agree hforget limit fuel) hstart hlater
  exact ⟨hanswers, hend.twins.same⟩

/-- A program that defines a function and calls it, run twice: the second run calls a new function
at the site that remembers the old one, and its body is at the site that the first run filled. -/
theorem forgetting_unobservable_redefinition :
    let sum : Form := .ofItems [.ofSymbol "+" .start, .ofSymbol "X" .start,
      .leaf (.int 1) .start none]
      .start
    let definition : Form := .ofItems [.ofSymbol "DEFUN" .start, .ofSymbol "F" .start,
      .ofItems [.ofSymbol "X" .start] .start, sum] .start
    let call : Form := .ofItems [.ofSymbol "F" .start, .leaf (.int 2) .start none] .start
    let program : Form := .ofItems [.ofSymbol "PROGN" .start, definition, call] .start
    let ev := Eval.evaluator 1000
    let compile : Turn := ⟨.compile program, .empty, 0⟩
    let compiled := ((Dialogue.start .raise).ask ev compile).2
    let evaluate : Turn :=
      ⟨.evaluation (.evaluate World.root (compiled.held.headD default)), .empty, 20⟩
    let reached := ((Dialogue.start .raise).askAll ev [compile, evaluate]).2
    ((reached.world.cached? 0).isSome && (reached.world.cached? 1).isSome) = true ∧
      ((⟨reached.world.forgetAll, reached.held⟩ : Dialogue).askAll
          (Eval.evaluatorForgetting World.forgetAll 1000) [evaluate]).1 =
        (reached.askAll ev [evaluate]).1 := by
  intro sum definition call program ev compile compiled evaluate reached
  have hcompiled : compiled.held.isEmpty = false := by decide +kernel
  have hnode : compiled.held.headD default ∈ compiled.held := by
    cases hheld : compiled.held with
    | nil => simp [hheld] at hcompiled
    | cons node nodes => simp
  have hknows (dialogue : Dialogue) (hheld : compiled.held ⊆ dialogue.held) :
      ∀ node ∈ evaluate.move.nodes, dialogue.Knows node := by
    intro node hmem
    obtain rfl := List.mem_singleton.mp hmem
    exact .held (hheld hnode)
  have hhistory : (Dialogue.start .raise).Allows ev [compile, evaluate] :=
    ⟨by simp [compile, Move.nodes], hknows compiled (List.Subset.refl _), trivial⟩
  have hlater : reached.Allows ev [evaluate] :=
    ⟨hknows reached (Dialogue.held_subset_ask ev compiled evaluate), trivial⟩
  exact ⟨by decide +kernel, (forgetting_unobservable hhistory rfl
    reached.world.forgetAll_forgets World.forgetAll_forgets hlater).1⟩

end LispEngine
