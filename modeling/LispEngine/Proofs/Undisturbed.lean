import LispEngine.Proofs.Deferral
import LispEngine.Proofs.Forgetting
import LispEngine.Proofs.Outlines

/-!
# Undisturbed scopes

Code without assignments binds names in frames of its own only. Whatever it evaluates and however it
ends, the frames that were there before are as they were, so that none of its variables can be seen
from outside.
-/

namespace LispEngine

/-! ## Code without assignments -/

inductive Node.Throughout (p : Code → Bool) : Node → Prop where
  | intro {node : Node} (own : p node.code = true)
      (inner : ∀ child ∈ node.code.children, Throughout p child) : Throughout p node

def Node.holdsWithin (p : Code → Bool) : Nat → Node → Bool
  | 0, _ => false
  | depth + 1, node => p node.code && node.code.children.all (holdsWithin p depth)

namespace Node.Throughout

variable {p : Code → Bool} {node : Node}

theorem own (h : node.Throughout p) : p node.code = true := by
  cases h with
  | intro own inner => exact own

theorem inner (h : node.Throughout p) : ∀ child ∈ node.code.children, child.Throughout p := by
  cases h with
  | intro own inner => exact inner

theorem of_holdsWithin {depth : Nat} (h : node.holdsWithin p depth = true) : node.Throughout p := by
  induction depth generalizing node with
  | zero => cases h
  | succ depth ih =>
      obtain ⟨hown, hinner⟩ := Bool.and_eq_true_iff.mp h
      refine .intro hown ?_
      intro child hchild
      exact ih (List.all_eq_true.mp hinner child hchild)

end Node.Throughout

def FormOf.keepsNames (defined : String → Bool) : BuiltIn → Bool
  | assign _ _ => false
  | defun name _ => defined (Text.canonical name)
  | _ => true

def CodeOf.keepsNames (defined : String → Bool) : Code → Bool
  | form slot => slot.content.all (FormOf.keepsNames defined)
  | _ => true

abbrev Node.AssignFree (defined : String → Bool) : Node → Prop :=
  Node.Throughout (CodeOf.keepsNames defined)

structure World.AssignFree (defined : String → Bool) (world : World) : Prop where
  closures : ∀ closure, .closure closure ∈ world.defs.functions →
    ∀ node ∈ closure.parts.children, node.AssignFree defined
  thunks : ∀ node scope, .pending node scope ∈ world.thunks → node.AssignFree defined

/-! ## What evaluations leave alone -/

/-- The frames, the functions and the names of a world are still there, as they were. Only names of
the given sort may have been defined anew. -/
structure World.Undisturbed (defined : String → Bool) (before after : World) : Prop where
  size : before.frames.size ≤ after.frames.size
  frame {id : FrameId} : id.index < before.frames.size → after.frame? id = before.frame? id
  function {ref : FunctionRef} {callable : Callable} :
    before.defs.function? ref = some callable → after.defs.function? ref = some callable
  entry {name : String} : defined (Text.canonical name) = false →
    after.defs.entry? name = before.defs.entry? name

theorem World.enclosed_iff {world : World} : world.Enclosed ↔
    ∀ frame ∈ world.frames, ∀ parent ∈ frame.parent, parent.index < world.frames.size := by
  constructor
  · intro h frame hframe parent hparent
    obtain ⟨index, hindex⟩ := Array.getElem?_of_mem hframe
    exact (h ⟨index⟩ frame parent hindex hparent).lt_size
  · intro h id frame parent hframe hparent
    exact ⟨_, Array.getElem?_eq_getElem (h frame (Array.mem_of_getElem? hframe) parent hparent)⟩

instance (world : World) : Decidable world.Enclosed := decidable_of_iff' _ World.enclosed_iff

namespace World.Undisturbed

variable {defined : String → Bool} {before world : World}

theorem refl (world : World) : world.Undisturbed defined world :=
  ⟨Nat.le_refl _, fun _ => rfl, id, fun _ => rfl⟩

variable (h : before.Undisturbed defined world)

include h

theorem elsewhere {after : World} (hframes : after.frames = world.frames)
    (hdefs : after.defs = world.defs) : before.Undisturbed defined after := by
  refine ⟨hframes ▸ h.size, ?_, hdefs ▸ h.function, hdefs ▸ h.entry⟩
  intro id hid
  rw [frame?, hframes]
  exact h.frame hid

theorem addFrame (frame : Frame) : before.Undisturbed defined (world.addFrame frame).2 := by
  have hgrown : before.frames.size ≤ (world.frames.push frame).size := by
    have hsize := h.size
    simp only [Array.size_push]
    omega
  refine ⟨hgrown, ?_, h.function, h.entry⟩
  intro id hid
  rw [frame?_addFrame_of_lt (Nat.lt_of_lt_of_le hid h.size)]
  exact h.frame hid

theorem modifyFrame {id : FrameId} (hnew : before.frames.size ≤ id.index) (change : Frame → Frame) :
    before.Undisturbed defined (world.modifyFrame id change) := by
  have hsize : before.frames.size ≤ (world.frames.modify id.index change).size := by
    simpa using h.size
  refine ⟨hsize, ?_, h.function, h.entry⟩
  intro other hother
  have hold : other ≠ id := by
    rintro rfl
    omega
  rw [frame?_modifyFrame, if_neg hold]
  exact h.frame hother

theorem addFunction (callable : Callable) :
    before.Undisturbed defined
      { world with defs := (world.defs.addFunction callable).2 } := by
  refine ⟨h.size, h.frame, ?_, h.entry⟩
  intro ref found hfound
  have hkept := h.function hfound
  obtain ⟨hlt, -⟩ := Array.getElem?_eq_some_iff.mp hkept
  simpa [Definitions.function?, Definitions.addFunction, Array.getElem?_push, Nat.ne_of_lt hlt]
    using hkept

theorem defineFunction {name : String} (hname : defined (Text.canonical name) = true)
    (ref : FunctionRef) :
    before.Undisturbed defined { world with defs := world.defs.defineFunction name ref } := by
  refine ⟨h.size, h.frame, h.function, ?_⟩
  intro other hother
  have hdiffer : Text.canonical other ≠ Text.canonical name := by
    intro hsame
    simp [hsame, hname] at hother
  simp only [Definitions.entry?, Definitions.defineFunction, Definitions.install,
    Bindings.find?_insert, if_neg hdiffer]
  exact h.entry hother

theorem find?_eq (henclosed : before.Enclosed) {id : FrameId} (hid : id.index < before.frames.size)
    (name : String) : world.find? id name = before.find? id name := by
  have hfind (steps : Nat) : ∀ id : FrameId, id.index < before.frames.size →
      (world.chainWithin steps id).findSome? (world.localFind? name) =
        (before.chainWithin steps id).findSome? (before.localFind? name) := by
    induction steps with
    | zero =>
        intro id hid
        rfl
    | succ steps ih =>
        intro id hid
        obtain ⟨frame, hframe⟩ : ∃ frame, before.frame? id = some frame :=
          ⟨_, Array.getElem?_eq_getElem hid⟩
        have hkept : world.frame? id = some frame := (h.frame hid).trans hframe
        have hlocal : world.localFind? name id = before.localFind? name id := by
          rw [localFind?, localFind?, hkept, hframe]
        simp only [chainWithin, hkept, hframe, List.findSome?_cons, hlocal]
        cases hparent : frame.parent with
        | none => rfl
        | some parent =>
            have henclosing := henclosed id frame parent hframe hparent
            simp only [ih parent henclosing.lt_size]
  exact hfind (id.index + 1) id hid

end World.Undisturbed

/-! ## Evaluations -/

structure World.Calm (defined : String → Bool) (base world : World) : Prop where
  undisturbed : base.Undisturbed defined world
  functions : ∀ callable ∈ world.defs.functions, ∀ node ∈ callable.nodes, node.AssignFree defined
  thunks : ∀ node scope, .pending node scope ∈ world.thunks → node.AssignFree defined
  sites : ∀ call, some call ∈ world.sites → call.arguments.All (Node.AssignFree defined)

namespace World.Calm

variable {defined : String → Bool} {base world : World} (h : base.Calm defined world)

include h

theorem withTrace (trace : Backtrace) : base.Calm defined { world with trace } :=
  ⟨h.undisturbed.elsewhere rfl rfl, h.functions, h.thunks, h.sites⟩

theorem withErrorCount (errorCount : Nat) : base.Calm defined { world with errorCount } :=
  ⟨h.undisturbed.elsewhere rfl rfl, h.functions, h.thunks, h.sites⟩

theorem addFrame (frame : Frame) : base.Calm defined (world.addFrame frame).2 :=
  ⟨h.undisturbed.addFrame frame, h.functions, h.thunks, h.sites⟩

theorem modifyFrame {id : FrameId} (hnew : base.frames.size ≤ id.index) (change : Frame → Frame) :
    base.Calm defined (world.modifyFrame id change) :=
  ⟨h.undisturbed.modifyFrame hnew change, h.functions, h.thunks, h.sites⟩

theorem addThunk {node : Node} (scope : FrameId) (hnode : node.AssignFree defined) :
    base.Calm defined (world.addThunk node scope).2 := by
  refine ⟨h.undisturbed.elsewhere rfl rfl, h.functions, ?_, h.sites⟩
  intro found owner hfound
  rcases Array.mem_push.mp hfound with hold | hnew
  · exact h.thunks found owner hold
  · cases hnew
    exact hnode

theorem setThunk (id : ThunkId) {thunk : Thunk}
    (hthunk : ∀ node scope, thunk = .pending node scope → node.AssignFree defined) :
    base.Calm defined (world.setThunk id thunk) := by
  refine ⟨h.undisturbed.elsewhere rfl rfl, h.functions, ?_, h.sites⟩
  intro node scope hfound
  rcases Array.mem_or_eq_of_mem_setIfInBounds hfound with hold | hnew
  · exact h.thunks node scope hold
  · exact hthunk node scope hnew.symm

theorem addFunction {callable : Callable}
    (hnodes : ∀ node ∈ callable.nodes, node.AssignFree defined) :
    base.Calm defined { world with defs := (world.defs.addFunction callable).2 } := by
  refine ⟨h.undisturbed.addFunction callable, ?_, h.thunks, h.sites⟩
  intro found hfound
  rcases Array.mem_push.mp hfound with hold | rfl
  · exact h.functions found hold
  · exact hnodes

theorem defineFunction {name : String} (hname : defined (Text.canonical name) = true)
    (ref : FunctionRef) :
    base.Calm defined { world with defs := world.defs.defineFunction name ref } :=
  ⟨h.undisturbed.defineFunction hname ref, h.functions, h.thunks, h.sites⟩

theorem remember (site : Nat) {call : CachedCall}
    (hcall : call.arguments.All (Node.AssignFree defined)) :
    base.Calm defined (world.remember site call) := by
  refine ⟨h.undisturbed.elsewhere rfl rfl, h.functions, h.thunks, ?_⟩
  intro other hother
  rcases Array.mem_or_eq_of_mem_setIfInBounds hother with hold | heq
  · exact h.sites other hold
  · obtain rfl := Option.some.inj heq
    exact hcall

end World.Calm

def Contract.calm (limit : Nat) (defined : String → Bool) (base : World) : Contract where
  limit := limit
  world := base.Calm defined
  change _ _ := True
  scope _ _ := True
  own _ id := base.frames.size ≤ id.index
  enter _ _ := True
  value _ := True
  node := Node.AssignFree defined
  failure _ _ := True
  raised _ _ := True
  hosted := True
  halted := base.Calm defined
  fuelled _ _ := True

namespace Contract

variable {limit : Nat} {defined : String → Bool} {base : World}

theorem calm_sound (limit : Nat) (defined : String → Bool) (base : World) :
    (calm limit defined base).Sound where
  child hnode hchild := hnode.inner _ hchild
  ofValue _ := .intro rfl (by simp [Node.ofValue, CodeOf.children])
  addChild hw _ := ⟨⟨hw.addFrame _, rfl, trivial⟩, hw.undisturbed.size⟩
  addCallFrame _ hw _ _ := ⟨⟨hw.addFrame _, rfl, trivial⟩, hw.undisturbed.size⟩
  addHandler _ _ hw _ _ := ⟨⟨(hw.addFrame _).withErrorCount _, rfl, trivial⟩, trivial⟩
  setLocal _ _ hw hown _ := ⟨hw.modifyFrame hown _, rfl, trivial⟩
  fillSlot _ _ _ hw hown _ := ⟨hw.modifyFrame hown _, rfl, trivial⟩
  update := by
    -- the one operation that writes into frames of others belongs to assignments
    intro world id node discipline pairs name v hnode hcode
    have hown := hnode.own
    rw [hcode] at hown
    cases hown
  addThunk hw hnode _ := ⟨hw.addThunk _ hnode, rfl, trivial⟩
  pending := by
    intro world id node scope hw hpending
    refine ⟨hw.thunks node scope (Array.mem_of_getElem? hpending), hw.setThunk id ?_, trivial⟩
    rintro _ _ ⟨⟩
  settle := by
    intro world after id node scope v _ _ hnext _ _
    refine ⟨hnext.world.setThunk id ?_, hnext.trace, trivial⟩
    rintro _ _ ⟨⟩
  restore := by
    intro world after id node scope hw hpending hnext
    have hnode := hw.thunks node scope (Array.mem_of_getElem? hpending)
    refine ⟨hnext.world.setThunk id ?_, hnext.trace, trivial⟩
    rintro _ _ ⟨rfl⟩
    exact hnode
  close name _ hw _ hparts _ := ⟨hw.addFunction hparts, rfl, trivial⟩
  defineFunction := by
    intro world node name parts ref hnode hcode hw
    have hown := hnode.own
    rw [hcode] at hown
    exact ⟨hw.defineFunction hown ref, rfl, trivial⟩
  function hw hfunction :=
    function_of_nodes (hw.functions _ (Array.mem_of_getElem? hfunction)) (fun _ _ => trivial)
      trivial (fun _ => trivial) fun _ _ => trivial
  cached := by
    intro world site call hw hcached
    have hsite := Option.join_eq_some_iff.mp hcached
    exact hw.sites call (Array.mem_of_getElem? hsite)
  remember site _ hw hcall _ := ⟨hw.remember site hcall, rfl, trivial⟩
  entered call hw _ _ := ⟨hw.withTrace _, trivial⟩
  left _ _ hnext := ⟨hnext.world.withTrace _, rfl, trivial⟩

end Contract

/-! ## Reached worlds -/

namespace Dialogue

/-- The dialogues that turns lead to. A turn may be cut off at any moment, which may be told by
anything but what call sites remember. -/
inductive Reached (limit : Nat) (missing : MissingPolicy) : Dialogue → Prop where
  | start : Reached limit missing (start missing)
  | turn {dialogue : Dialogue} (turn : Turn) (halt : World → Bool)
      (reached : Reached limit missing dialogue)
      (blind : ∀ world sites, halt (World.withSites world sites) = halt world)
      (knows : ∀ node ∈ turn.move.nodes, dialogue.Knows node) :
      Reached limit missing (dialogue.ask (Eval.evaluatorUntil halt limit) turn).2

theorem Reached.inStep {limit : Nat} {missing : MissingPolicy} {dialogue : Dialogue}
    (h : Reached limit missing dialogue) : ∃ log, InStep log dialogue dialogue := by
  induction h with
  | start => exact ⟨[], start_inStep missing⟩
  | turn turn halt reached blind knows ih =>
      obtain ⟨log, hlog⟩ := ih
      have hhalt (log : SiteLog) (world twin : World) (htwins : Twins log world twin) :
          halt twin = halt world := by
        obtain ⟨sites, rfl⟩ := htwins.same
        exact blind world sites
      have hagree (log : SiteLog) (fuel : Nat) :
          (Eval.evaluatorUntil halt limit fuel).Agree (.twins log)
            (Eval.evaluatorUntil halt limit fuel) :=
        Eval.evaluatorUntil_agree (L := .twins log) (hhalt log) (fun _ _ _ hvisit => hvisit.1) limit
          fuel
      exact (ask_inStep hagree hlog knows).2

end Dialogue

/-- Sites that remember nothing call for no assignments, and functions of the host have no code. -/
theorem World.AssignFree.calm {defined : String → Bool} {world : World}
    (h : world.AssignFree defined) {log : SiteLog} (hlogged : world.Logged log) :
    world.forgetAll.Calm defined world.forgetAll := by
  refine ⟨.refl _, ?_, h.thunks, ?_⟩
  · intro callable hmem node hnode
    cases callable with
    | closure closure => exact h.closures closure hmem node hnode
    | native native =>
        have hplain : LambdaParts.defaults native.spec = [] := hlogged.plain _ hmem
        simp [Callable.nodes, hplain] at hnode
  · intro call hcall
    simp [forgetAll, withSites] at hcall

namespace Eval

theorem SameResult.worldAfter {α : Type} {R : World → World → Prop}
    {result other : EStateM.Result Signal World α} (h : SameResult R result other) :
    R (worldAfter result) (worldAfter other) := by
  cases h with
  | ok after => exact after
  | error after => exact after

private theorem node_calm {defined : String → Bool} {base world : World}
    (h : base.Calm defined world) {node : Node} (hnode : node.AssignFree defined) (limit fuel : Nat)
    (scope : FrameId) :
    base.Calm defined (worldAfter ((evaluator limit fuel).node scope node world)) := by
  have hhalt : ∀ world, never world = true → base.Calm defined world → base.Calm defined world :=
    fun _ _ hw => hw
  have hev : (Contract.calm limit defined base).Evaluates (evaluatorUntil never limit fuel)
      world.trace :=
    (Contract.calm_sound limit defined base).evaluatorUntil_evaluates hhalt trivial
  rw [evaluatorUntil_never] at hev
  exact (hev.node ⟨h, rfl⟩ trivial hnode).world_after fun _ hw => hw

/-- Evaluate code without assignments, in a world without assignments that was reached in any way.
However the evaluation ends, or wherever it is cut off, the frames, functions and names that were
there are as they were, but for the names that the code defines as functions. When it has ended, at
most pending ones of the deferred arguments are settled. No name means anything else in the old
frames than before. -/
theorem evaluation_undisturbing {limit : Nat} {missing : MissingPolicy} {reached : Dialogue}
    (hreached : reached.Reached limit missing) {defined : String → Bool}
    (hworld : reached.world.AssignFree defined) {node : Node} (hknown : reached.Knows node)
    (hnode : node.AssignFree defined) (scope : FrameId) (trace : Backtrace) (fuel : Nat) :
    let before : World := { reached.world with trace }
    let result := (evaluator limit fuel).node scope node before
    let after := worldAfter result
    before.Undisturbed defined after ∧
      ((∀ last, result ≠ .error .exhausted last) → Advances before.thunks after.thunks) ∧
      (before.Enclosed → ∀ id : FrameId, id.index < before.frames.size →
        ∀ name, after.find? id name = before.find? id name) := by
  intro before result after
  obtain ⟨log, hlog⟩ := hreached.inStep
  have hlogged : before.Logged log := hlog.twins.left.keepsStores ⟨rfl, rfl, rfl⟩
  have htwins : Twins log before before.forgetAll :=
    ⟨⟨_, rfl⟩, hlogged, hlogged.forget before.forgetAll_forgets⟩
  have hfree : before.AssignFree defined := ⟨hworld.closures, hworld.thunks⟩
  -- what sites remember is of older code, so the evaluation is looked at without it
  have hcalm := node_calm (hfree.calm hlogged) hnode limit fuel scope
  have hvisit : (Likeness.twins log).visits node scope scope := ⟨rfl, hlog.knows hknown⟩
  have hsame := (evaluator_agree limit fuel).node hvisit before before.forgetAll htwins
  obtain ⟨sites, hsites⟩ := hsame.worldAfter.same
  rw [hsites] at hcalm
  have hundisturbed : before.Undisturbed defined after :=
    ⟨hcalm.undisturbed.size, hcalm.undisturbed.frame, hcalm.undisturbed.function,
      hcalm.undisturbed.entry⟩
  exact ⟨hundisturbed, node_advances limit fuel scope node before,
    fun henclosed id hid name => hundisturbed.find?_eq henclosed hid name⟩

/-- Binding forms whose variables are named as one that an earlier program has assigned, evaluated
when a call site still remembers the assignment. The variable keeps its value. -/
theorem evaluation_undisturbing_nested_bindings :
    let symbol (name : String) : Form := .ofSymbol name .start
    let int (n : Int32) : Form := .leaf (.int n) .start none
    let list (items : List Form) : Form := .ofItems items .start
    let identity := list [symbol "DEFUN", symbol "F", list [symbol "X"], symbol "X"]
    let assigning :=
      list [symbol "PROGN", identity, list [symbol "F", list [symbol "SETQ", symbol "Y", int 1]]]
    let binding := list [symbol "PROGN",
      list [symbol "LET", list [list [symbol "Y", int 2]], list [symbol "F", symbol "Y"]],
      list [symbol "FOREACH", list [symbol "Y", list [symbol "LIST", int 3]], symbol "Y"],
      list [symbol "DEFUN", symbol "G", list [], symbol "Y"],
      list [symbol "->", int 5, list [symbol "+", symbol "Y"]]]
    let defined (name : String) : Bool := name == "G"
    let ask (dialogue : Dialogue) (move : Move) : Dialogue :=
      (dialogue.ask (evaluatorUntil never 1000) ⟨move, .empty, 20⟩).2
    let compiled := ask (.start .raise) (.compile assigning)
    let assigned := ask compiled (.evaluation (.evaluate World.root (compiled.held.headD default)))
    let reached := ask assigned (.compile binding)
    let node := reached.held.headD default
    let before : World := { reached.world with trace := .empty }
    let result := (evaluator 1000 20).node World.root node before
    let after := worldAfter result
    (reached.Reached 1000 .raise ∧ reached.world.AssignFree defined ∧ reached.Knows node ∧
        node.AssignFree defined ∧ before.Enclosed) ∧
      before.Undisturbed defined after ∧ Advances before.thunks after.thunks ∧
      after.find? World.root "Y" = before.find? World.root "Y" := by
  intro symbol int list identity assigning binding defined ask compiled assigned reached node before
    result after
  have hblind : ∀ world sites, never (World.withSites world sites) = never world := fun _ _ => rfl
  have hhead {dialogue : Dialogue} (h : dialogue.held.isEmpty = false) :
      dialogue.held.headD default ∈ dialogue.held := by
    cases hheld : dialogue.held with
    | nil => simp [hheld] at h
    | cons node nodes => simp
  have hchecks : (compiled.held.isEmpty = false ∧ reached.held.isEmpty = false) ∧
      (node.holdsWithin (CodeOf.keepsNames defined) 5 = true ∧
        ∀ callable ∈ reached.world.defs.functions.toList, ∀ node ∈ callable.nodes,
          node.holdsWithin (CodeOf.keepsNames defined) 5 = true) ∧
      reached.world.thunks.isEmpty = true ∧ before.Enclosed ∧
      World.root.index < before.frames.size ∧
      (EStateM.run' ((evaluator 1000 20).node World.root node) before).isSome = true := by
    decide +kernel
  obtain ⟨⟨hcompiled, hbinding⟩, ⟨hnode, hfunctions⟩, hthunks, henclosed, hroot, hvalue⟩ := hchecks
  have hknown : reached.Knows node := .held (hhead hbinding)
  have hreached : reached.Reached 1000 .raise := by
    refine .turn _ never (.turn _ never (.turn _ never .start hblind ?_) hblind ?_) hblind ?_
    · simp [Move.nodes]
    · intro node hnode
      obtain rfl := List.mem_singleton.mp hnode
      exact .held (hhead hcompiled)
    · simp [Move.nodes]
  have hfree : reached.world.AssignFree defined := by
    refine ⟨?_, ?_⟩
    · intro closure hmem child hchild
      exact .of_holdsWithin (hfunctions _ (Array.mem_toList_iff.mpr hmem) child hchild)
    · intro child scope hmem
      simp [Array.isEmpty_iff.mp hthunks] at hmem
  have hended : ∀ last, result ≠ .error .exhausted last := by
    intro last hlast
    have hrun : (evaluator 1000 20).node World.root node before = .error .exhausted last := hlast
    delta EStateM.run' EStateM.run at hvalue
    rw [hrun] at hvalue
    cases hvalue
  obtain ⟨hundisturbed, hadvances, hfind⟩ := evaluation_undisturbing hreached hfree hknown
    (.of_holdsWithin hnode) World.root .empty 20
  exact ⟨⟨hreached, hfree, hknown, .of_holdsWithin hnode, henclosed⟩, hundisturbed,
    hadvances hended, hfind henclosed World.root hroot "Y"⟩

end Eval

end LispEngine
