import LispEngine.Proofs.Ambient
import LispEngine.Proofs.BuiltIns
import LispEngine.Proofs.Likeness
import LispEngine.Proofs.Outlines
import LispEngine.Proofs.Termination

/-!
# Well-formed worlds

In a well-formed world frames are nested, whatever refers to a frame refers to one that is there,
lambda lists are accepted ones, and call sites remember what the functions they called have bound.
Everything that can be asked of an interpreter keeps its world well-formed, at every moment.
-/

namespace LispEngine

/-! ## Code with accepted lambda lists -/

/-- Every function that a node builds, at any depth, has an accepted lambda list. -/
abbrev Node.Proper (node : Node) : Prop := node.Obeys Interpreter.anyCode

structure Callable.ProperIn (world : World) (callable : Callable) : Prop where
  nodes : ∀ node ∈ callable.nodes, node.Proper
  spec : callable.spec.Accepted
  scope : ∀ closure, callable = .closure closure → world.HasFrame closure.scope

theorem Node.Proper.spec {node : Node} {form : BuiltIn} {parts : LambdaParts Node}
    (h : node.Proper) (hcode : node.code = .ofForm form) (hparts : form.parts? = some parts) :
    parts.spec.Accepted := by
  have hform := h.form hcode
  unfold FormOf.parts? at hparts
  split at hparts
  · obtain rfl := Option.some.inj hparts
    exact hform trivial
  · obtain rfl := Option.some.inj hparts
    exact hform trivial
  · cases hparts

theorem Callable.ProperIn.mono {world after : World} {callable : Callable}
    (h : callable.ProperIn world) (hextends : world.Extends after) : callable.ProperIn after :=
  ⟨h.nodes, h.spec, fun closure hclosure => (h.scope closure hclosure).mono hextends⟩

theorem accepted_of_parse {tokens : List String} {spec : LambdaList Node}
    (h : (LambdaList.parse tokens : Except Cause (LambdaList Node)) = .ok spec) : spec.Accepted :=
  .read h

theorem properIn_native (world : World) (name : String) {parameters : List String}
    {spec : LambdaList Node} (doc : Option String) (code : NativeCode)
    (h : (LambdaList.parse parameters : Except Cause (LambdaList Node)) = .ok spec) :
    Callable.ProperIn world (.native ⟨name, spec, doc, code⟩) := by
  have hread := LambdaReader.parse_reads (N := Node.Proper) parameters
  rw [h] at hread
  exact ⟨hread, accepted_of_parse h, by rintro closure ⟨⟩⟩

/-! ## What call sites remember -/

def World.Remembers (world : World) : Prop := ∀ call, some call ∈ world.sites → call.BoundIn world

theorem World.mem_sites {world : World} {site : Nat} {call : CachedCall}
    (h : world.cached? site = some call) : some call ∈ world.sites :=
  Array.mem_of_getElem? (Option.join_eq_some_iff.mp h)

namespace World.Remembers

variable {world : World} (h : world.Remembers)

include h

theorem addFunction (callable : Callable) :
    World.Remembers { world with defs := (world.defs.addFunction callable).2 } := by
  intro call hcall
  obtain ⟨owner, nodes, howner, hbound⟩ := h call hcall
  have hlt := (Array.getElem?_eq_some_iff.mp howner).1
  refine ⟨owner, nodes, ?_, hbound⟩
  exact (Array.getElem?_push_lt hlt).trans (Array.getElem?_eq_getElem hlt ▸ howner)

theorem remember (site : Nat) {call : CachedCall} (hcall : call.BoundIn world) :
    (world.remember site call).Remembers := by
  intro other hother
  rcases Array.mem_or_eq_of_mem_setIfInBounds hother with hold | heq
  · exact h other hold
  · obtain rfl := Option.some.inj heq
    exact hcall

end World.Remembers

/-! ## Well-formed worlds -/

structure World.WellFormed (world : World) : Prop where
  root : world.HasFrame World.root
  frames : world.Nested
  thunks : ∀ node scope, .pending node scope ∈ world.thunks → node.Proper ∧ world.HasFrame scope
  functions : ∀ callable ∈ world.defs.functions, callable.ProperIn world
  declared : world.defs.Declared
  sites : ∀ call, some call ∈ world.sites → call.arguments.All Node.Proper
  remembers : world.Remembers

namespace World.WellFormed

variable {world : World} (h : world.WellFormed)

include h

theorem withFrames {frames : Array Frame} (hnested : World.Nested { world with frames })
    (hextends : world.Extends { world with frames }) : World.WellFormed { world with frames } where
  root := h.root.mono hextends
  frames := hnested
  thunks node scope hthunk := ⟨(h.thunks node scope hthunk).1,
    (h.thunks node scope hthunk).2.mono hextends⟩
  functions callable hcallable := (h.functions callable hcallable).mono hextends
  declared := h.declared
  sites := h.sites
  remembers := h.remembers

theorem of_frames {after : World} (hframes : after.frames = world.frames)
    (hthunks : ∀ node scope, .pending node scope ∈ after.thunks →
      node.Proper ∧ world.HasFrame scope)
    (hfunctions : ∀ callable ∈ after.defs.functions, callable.ProperIn world)
    (hdeclared : after.defs.Declared)
    (hsites : ∀ call, some call ∈ after.sites → call.arguments.All Node.Proper)
    (hremembers : after.Remembers) :
    after.WellFormed := by
  have hextends := World.extends_of_frames hframes
  exact {
    root := h.root.mono hextends
    frames := h.frames.of_frames hframes
    thunks := fun node scope hthunk =>
      ⟨(hthunks node scope hthunk).1, (hthunks node scope hthunk).2.mono hextends⟩
    functions := fun callable hcallable => (hfunctions callable hcallable).mono hextends
    declared := hdeclared
    sites := hsites
    remembers := hremembers }

theorem withTrace (trace : Backtrace) : World.WellFormed { world with trace } :=
  h.of_frames rfl h.thunks h.functions h.declared h.sites h.remembers

theorem withErrorCount (errorCount : Nat) : World.WellFormed { world with errorCount } :=
  h.of_frames rfl h.thunks h.functions h.declared h.sites h.remembers

theorem addFrame {frame : Frame} (hframe : world.Places (world.addFrame frame).1 frame) :
    (world.addFrame frame).2.WellFormed :=
  h.withFrames (h.frames.addFrame hframe) (world.extends_addFrame frame)

theorem modifyFrame (id : FrameId) {change : Frame → Frame}
    (hchange : ∀ frame : Frame, frame.SameShape (change frame)) :
    (world.modifyFrame id change).WellFormed :=
  h.withFrames (h.frames.modifyFrame id hchange) (world.extends_modifyFrame id hchange)

theorem remove (id : FrameId) (name : String) : (world.remove id name).2.WellFormed := by
  obtain ⟨hnested, hextends⟩ := h.frames.remove id name
  rw [World.remove_eq] at hnested hextends ⊢
  exact h.withFrames hnested hextends

theorem addThunk {node : Node} {scope : FrameId} (hnode : node.Proper)
    (hscope : world.HasFrame scope) : (world.addThunk node scope).2.WellFormed := by
  refine h.of_frames rfl ?_ h.functions h.declared h.sites h.remembers
  intro other place hthunk
  rcases Array.mem_push.mp hthunk with hold | heq
  · exact h.thunks other place hold
  · cases heq
    exact ⟨hnode, hscope⟩

theorem setThunk (id : ThunkId) {thunk : Thunk}
    (hthunk : ∀ node scope, thunk = .pending node scope → node.Proper ∧ world.HasFrame scope) :
    (world.setThunk id thunk).WellFormed := by
  refine h.of_frames rfl ?_ h.functions h.declared h.sites h.remembers
  intro node scope hmem
  rcases Array.mem_or_eq_of_mem_setIfInBounds hmem with hold | heq
  · exact h.thunks node scope hold
  · exact hthunk node scope heq.symm

theorem install (name : String) (entry : Entry) :
    World.WellFormed { world with defs := world.defs.install name entry } :=
  h.of_frames rfl h.thunks h.functions h.declared h.sites h.remembers

theorem addFunction {callable : Callable} (hcallable : callable.ProperIn world)
    (hdeclared : callable.Declared) :
    World.WellFormed { world with defs := (world.defs.addFunction callable).2 } := by
  refine h.of_frames rfl h.thunks ?_ (h.declared.addFunction hdeclared) h.sites
    (h.remembers.addFunction callable)
  intro found hfound
  rcases Array.mem_push.mp hfound with hold | rfl
  · exact h.functions found hold
  · exact hcallable

theorem growSites (count : Nat) : (world.growSites count).WellFormed := by
  have hsites : ∀ call, some call ∈ (world.growSites count).sites → some call ∈ world.sites := by
    intro call hcall
    refine (Array.mem_append.mp hcall).resolve_right ?_
    intro hnew
    exact absurd (Array.mem_replicate.mp hnew).2 (by simp)
  exact h.of_frames rfl h.thunks h.functions h.declared
    (fun call hcall => h.sites call (hsites call hcall))
    fun call hcall => h.remembers call (hsites call hcall)

theorem remember (site : Nat) {call : CachedCall} (hnodes : call.arguments.All Node.Proper)
    (hbound : call.BoundIn world) : (world.remember site call).WellFormed := by
  refine h.of_frames rfl h.thunks h.functions h.declared ?_ (h.remembers.remember site hbound)
  intro other hother
  rcases Array.mem_or_eq_of_mem_setIfInBounds hother with hold | heq
  · exact h.sites other hold
  · obtain rfl := Option.some.inj heq
    exact hnodes

theorem addNative (name : String) {parameters : List String} {spec : LambdaList Node} (doc : String)
    {code : NativeCode}
    (hspec : (LambdaList.parse parameters : Except Cause (LambdaList Node)) = .ok spec)
    (hcode : ∀ p, code = .primitive p → p.parameters = parameters) :
    World.WellFormed { world with defs := world.defs.addNative name spec doc code } := by
  refine (h.addFunction
    (properIn_native world (Text.canonical name) (some doc) code hspec) ?_).install name _
  cases code with
  | host run => trivial
  | primitive p =>
      obtain rfl := hcode p rfl
      exact hspec

end World.WellFormed

private theorem wellFormed_foldl {α : Type} {world : World} (add : Definitions → α → Definitions)
    (hadd : ∀ {world : World}, world.WellFormed → ∀ a,
      World.WellFormed { world with defs := add world.defs a })
    (items : List α) (h : world.WellFormed) :
    World.WellFormed { world with defs := items.foldl add world.defs } := by
  induction items generalizing world with
  | nil => exact h
  | cons item items ih => exact ih (hadd h item)

theorem initial_wellFormed (missing : MissingPolicy) : (World.initial missing).WellFormed := by
  have hframe {id : FrameId} {frame : Frame}
      (hfound : (World.initial missing).frame? id = some frame) : frame = .root missing := by
    have hmem := Array.mem_of_getElem? hfound
    simpa [World.initial] using hmem
  have hempty : World.WellFormed { World.initial missing with defs := .empty } := {
    root := ⟨Frame.root missing, rfl⟩
    frames := by
      intro id frame hfound
      obtain rfl := hframe hfound
      exact ⟨by simp [Frame.root], by simp [Frame.root]⟩
    thunks := by simp [World.initial]
    functions := by simp [Definitions.empty]
    declared := by simp [Definitions.Declared, Definitions.empty]
    sites := by simp [World.initial]
    remembers := by simp [World.Remembers, World.initial] }
  have hforms := wellFormed_foldl Definitions.addSpecialForm
    (fun h form => h.install form.name _) SpecialForm.all hempty
  have hexpressions := wellFormed_foldl Definitions.addSpecialExpression
    (fun h expression => h.install expression.name _) SpecialExpression.all hforms
  refine wellFormed_foldl Definitions.addPrimitive ?_ Primitive.all hexpressions
  intro world h p
  unfold Definitions.addPrimitive
  split
  · rename_i spec hspec
    refine h.addNative p.name p.doc hspec ?_
    rintro _ ⟨rfl⟩
    rfl
  · exact h

/-! ## Keeping worlds well-formed -/

def World.wellFormedContract (limit : Nat) : Contract where
  limit := limit
  world := World.WellFormed
  change := World.Extends
  scope := World.HasFrame
  own := World.HasFrame
  enter := World.HasFrame
  value _ := True
  node := Node.Proper
  failure _ _ := True
  raised _ _ := True
  hosted := True
  halted := World.WellFormed
  fuelled _ _ := True
  spec := LambdaList.Accepted

namespace World

variable {limit : Nat} {world : World}

theorem function_of_properIn {callable : Callable} (h : callable.ProperIn world) :
    (wellFormedContract limit).Function world callable :=
  Contract.function_of_nodes h.nodes h.scope trivial (fun _ => trivial) fun _ _ => trivial

theorem next_of_frames {after : World} (h : after.WellFormed)
    (hframes : after.frames = world.frames)
    (htrace : after.trace = world.trace) : (wellFormedContract limit).Next world after :=
  ⟨h, htrace, extends_of_frames hframes⟩

theorem next_modifyFrame (h : world.WellFormed) (id : FrameId) {change : Frame → Frame}
    (hchange : ∀ frame : Frame, frame.SameShape (change frame)) :
    (wellFormedContract limit).Next world (world.modifyFrame id change) :=
  ⟨h.modifyFrame id hchange, rfl, world.extends_modifyFrame id hchange⟩

theorem next_addFrame (h : world.WellFormed) {frame : Frame} {parent : FrameId}
    (hparent : world.HasFrame parent) (hframe : frame.parent = some parent)
    (hmissing : frame.missing = world.missingPolicy parent)
    (hcall : ∀ call, frame.call = some call → call.Fits) :
    (wellFormedContract limit).Next world (world.addFrame frame).2 ∧
      (world.addFrame frame).2.HasFrame (world.addFrame frame).1 :=
  ⟨⟨h.addFrame (places_new hparent hframe hmissing hcall), rfl, world.extends_addFrame frame⟩,
    world.hasFrame_addFrame frame⟩

theorem wellFormedContract_sound (limit : Nat) : (wellFormedContract limit).Sound where
  refl := Extends.refl
  trans h h' := h.trans h'
  scope_mono h hid := hid.mono h
  own_mono h hid := hid.mono h
  enter_mono h hid := hid.mono h.change
  child hnode hchild := hnode.inner _ hchild
  ofValue _ := Node.Obeys.ofValue trivial none
  parts hnode hcode hparts := hnode.spec hcode hparts
  root h := h.root
  addChild h hparent := next_addFrame h hparent rfl rfl (by simp [Frame.root])
  addCallFrame := by
    intro world parent spec h hparent hspec
    refine next_addFrame h hparent rfl rfl ?_
    rintro call ⟨rfl⟩
    exact CallSlots.fits_unfilled hspec
  addHandler := by
    intro world scope name failure h hscope _
    let frame : Frame := ⟨[(name, .error world.errorCount failure)], [], some scope, none,
      world.missingPolicy scope⟩
    have hadded : (wellFormedContract limit).Next world (world.addFrame frame).2 ∧
        (world.addFrame frame).2.HasFrame (world.addFrame frame).1 :=
      next_addFrame h hscope rfl rfl (by simp [frame])
    obtain ⟨hnext, hframe⟩ := hadded
    exact ⟨⟨hnext.world.withErrorCount _, rfl, hnext.change⟩, hframe⟩
  setLocal name _ h _ _ := next_modifyFrame h _ fun frame => frame.sameShape_set name _
  fillSlot index _ supplied h _ _ :=
    next_modifyFrame h _ fun frame => frame.sameShape_fillSlot index _ supplied
  update := by
    intro world id node discipline pairs name v _ _ h _ _
    cases discipline with
    | global => exact next_modifyFrame h _ fun frame => frame.sameShape_set name v
    | nearest => exact next_modifyFrame h _ fun frame => frame.sameShape_set name v
  addThunk h hnode hscope := next_of_frames (h.addThunk hnode hscope) rfl rfl
  pending := by
    intro world id node scope h hpending
    obtain ⟨hnode, hscope⟩ := h.thunks node scope (Array.mem_of_getElem? hpending)
    exact ⟨hnode, h.setThunk id (by simp), hscope⟩
  settle := by
    intro world after id node scope v _ _ hnext _ _
    exact ⟨hnext.world.setThunk id (by simp), hnext.trace, hnext.change⟩
  restore := by
    intro world after id node scope h hpending hnext
    obtain ⟨hnode, hscope⟩ := h.thunks node scope (Array.mem_of_getElem? hpending)
    refine ⟨hnext.world.setThunk id ?_, hnext.trace, hnext.change⟩
    rintro _ _ ⟨rfl, rfl⟩
    exact ⟨hnode, hscope.mono hnext.change⟩
  close := by
    intro world scope name parts h hscope hparts hspec
    refine next_of_frames (h.addFunction ⟨hparts, hspec, ?_⟩ trivial) rfl rfl
    rintro closure ⟨rfl⟩
    exact hscope
  defineFunction _ _ _ h := next_of_frames (h.install _ _) rfl rfl
  function h hcallable := function_of_properIn (h.functions _ (Array.mem_of_getElem? hcallable))
  functionSpec h hcallable := (h.functions _ (Array.mem_of_getElem? hcallable)).spec
  cached h hcached := h.sites _ (World.mem_sites hcached)
  cachedSpec := by
    intro world site call h hcached
    obtain ⟨callable, nodes, hcallable, hbinds⟩ := h.remembers call (World.mem_sites hcached)
    obtain ⟨keywords, -, -, harguments⟩ := bindArguments_eq_ok hbinds
    rw [harguments]
    exact (h.functions callable (Array.mem_of_getElem? hcallable)).spec
  remember site _ h hnodes hbound := next_of_frames (h.remember site hnodes hbound) rfl rfl
  entered call h _ hscope := ⟨h.withTrace _, hscope⟩
  left h _ hnext := ⟨hnext.world.withTrace _, rfl, hnext.change⟩

theorem evaluates_wellFormed (halt : World → Bool) (fuel : Nat) (trace : Backtrace) :
    (wellFormedContract limit).Evaluates (Eval.evaluatorUntil halt limit fuel) trace :=
  (wellFormedContract_sound limit).evaluatorUntil_evaluates (fun _ _ h => h) trivial

end World

/-! ## Reachable worlds -/

/-- What a routine is given belongs to the world: the frames are there, and lambda lists were
accepted. -/
def Routine.Refers (world : World) : Routine → Prop
  | evaluate scope node => world.HasFrame scope ∧ node.Proper
  | invoke caller callable arguments => world.HasFrame caller ∧ callable.ProperIn world ∧
      arguments.All Node.Proper ∧ arguments.spec.Accepted
  | call _ _ => True
  | frame caller defining arguments => world.HasFrame caller ∧ world.HasFrame defining ∧
      arguments.All Node.Proper ∧ arguments.spec.Accepted
  | values caller bounds =>
      world.HasFrame caller ∧ ∀ bound ∈ bounds, ∀ node ∈ bound.nodes, node.Proper
  | force _ => True

def Move.Refers (world : World) : Move → Prop
  | evaluation routine => routine.Refers world
  | defer node scope => node.Proper ∧ world.HasFrame scope
  | newChild parent => world.HasFrame parent
  | _ => True

/-- The worlds that moves of a sort lead to, or go through, from the start. -/
inductive World.ReachedBy (limit : Nat) (missing : MissingPolicy) (sort : World → Move → Prop) :
    World → Prop where
  | start : ReachedBy limit missing sort (.initial missing)
  | move {world : World} (move : Move) (trace : Backtrace) (halt : World → Bool) (fuel : Nat)
      (reached : ReachedBy limit missing sort world) (allowed : sort { world with trace } move) :
      ReachedBy limit missing sort (Eval.worldAfter
        (move.perform (Eval.evaluatorUntil halt limit fuel) { world with trace }))

theorem Routine.Refers.meets {limit : Nat} {world : World} {routine : Routine}
    (h : routine.Refers world) : routine.Meets (World.wellFormedContract limit) world := by
  cases routine with
  | evaluate scope node => exact h
  | invoke caller callable arguments =>
      exact ⟨h.1, World.function_of_properIn h.2.1, h.2.2⟩
  | call callee arguments => exact fun _ _ => trivial
  | frame caller defining arguments => exact h
  | values caller bounds => exact h
  | force thunk => trivial

namespace World

variable {limit : Nat} {missing : MissingPolicy} {world : World}

theorem ReachedBy.mono {sort other : World → Move → Prop}
    (hsort : ∀ world move, sort world move → other world move)
    (h : ReachedBy limit missing sort world) : ReachedBy limit missing other world := by
  induction h with
  | start => exact .start
  | move move trace halt fuel reached allowed ih =>
      exact .move move trace halt fuel ih (hsort _ move allowed)

theorem ReachedBy.compile {sort : World → Move → Prop} (h : ReachedBy limit missing sort world)
    {trace : Backtrace} {form : Form} (hsort : sort { world with trace } (.compile form))
    {node : Node} {after : World}
    (hcompile : Interpreter.compile form { world with trace } = .ok node after) :
    ReachedBy limit missing sort after := by
  have hmove : (Move.compile form).perform (Eval.evaluatorUntil Eval.never limit 0)
      { world with trace } = .ok () after := Eval.bind_eq_ok_iff.mpr ⟨node, after, hcompile, rfl⟩
  have hmoved := ReachedBy.move (.compile form) trace Eval.never 0 h hsort
  rw [hmove] at hmoved
  exact hmoved

variable {ev : Evaluator} {trace : Backtrace}

theorem registerNative_wellFormed (h : world.WellFormed) (name : String) (parameters : List String)
    (doc : String) (run : Backtrace → List Value → HostAction) :
    (wellFormedContract limit).Keeps (fun _ => True) (fun _ _ => True) world
      (Interpreter.registerNative name parameters doc run) := by
  have hC := wellFormedContract_sound limit
  unfold Interpreter.registerNative
  cases hspec : (LambdaList.parse parameters : Except Cause (LambdaList Node)) with
  | error cause => exact hC.keeps_failed h trivial
  | ok spec =>
      refine hC.keeps_bind (Q := fun after other => world = after ∧ spec = other)
        (hC.keeps_pure h ⟨rfl, rfl⟩) ?_
      rintro _ _ - ⟨rfl, rfl⟩
      split
      · exact hC.keeps_failed h trivial
      · refine Contract.Sound.keeps_modify (next_of_frames ?_ rfl rfl) trivial
        exact h.addNative name doc hspec (by rintro _ ⟨⟩)

theorem compile_wellFormed (h : world.WellFormed) (form : Form) :
    (wellFormedContract limit).Keeps (fun _ => True) (fun _ node => node.Proper) world
      (Interpreter.compile form) :=
  Contract.compiling_keeps (fun count => next_of_frames (h.growSites count) rfl rfl)
    (Interpreter.compileChecked_anyCode world.defs form)

theorem perform_wellFormed (hev : (wellFormedContract limit).Evaluates ev world.trace)
    (h : world.WellFormed) {move : Move} (hmove : move.Refers world) :
    (wellFormedContract limit).Keeps (fun _ => True) (fun _ _ => True) world (move.perform ev) := by
  have hC := wellFormedContract_sound limit
  have hgrown (count : Nat) : (wellFormedContract limit).Next world (world.growSites count) :=
    next_of_frames (h.growSites count) rfl rfl
  have hcompilable := compilable_of_leaves inherited_true world.defs (F := Interpreter.anyCode)
  have hdefs := Interpreter.obeys_anyCode world.defs
  have hmodify {change : World → World}
      (hnext : (wellFormedContract limit).Next world (change world)) :
      (wellFormedContract limit).Keeps (fun _ => True) (fun _ _ => True) world (modify change) :=
    Contract.Sound.keeps_modify hnext trivial
  have hset (id : FrameId) (name : String) (v : Value) :
      (wellFormedContract limit).Next world (world.setLocal id name v) :=
    next_modifyFrame h id fun frame => frame.sameShape_set name v
  cases move with
  | evaluation routine => exact (hC.routine_keeps hev h hmove.meets).error fun _ _ => trivial
  | compile form => exact hC.keeps_discard (compile_wellFormed h form)
  | compileDirect form =>
      exact hC.keeps_discard (Contract.compiling_keeps hgrown
        (hcompilable.compileForm_gives hdefs (Interpreter.holds_anyCode form)))
  | compileParameters forms =>
      exact hC.keeps_discard (Contract.compiling_keeps hgrown
        ((hcompilable.compiles_form hdefs).lambdaList_gives fun form _ =>
          Interpreter.holds_anyCode form))
  | defer node scope => exact hmodify (hC.addThunk h hmove.1 hmove.2)
  | newRoot missing =>
      refine hmodify ⟨h.addFrame ⟨?_, ?_⟩, rfl, world.extends_addFrame _⟩
      · simp [Frame.root]
      · simp [Frame.root]
  | newChild parent => exact hmodify (hC.addChild h hmove).1
  | define scope name v =>
      have hdefine : (wellFormedContract limit).Keeps
          ((wellFormedContract limit).failure world.trace) (fun _ _ => True) world
          (Eval.define scope name v) := hC.define_keeps_of_next h (hset scope name v)
      exact hdefine
  | setLocal scope name v => exact hmodify (hset scope name v)
  | update discipline scope name v =>
      cases discipline with
      | global => exact hmodify (hset _ name v)
      | nearest => exact hmodify (hset _ name v)
  | remove scope name =>
      refine hmodify ⟨h.remove scope name, ?_, (h.frames.remove scope name).2⟩
      rw [World.remove_eq]
  | setProperty scope name key v =>
      exact hmodify (next_modifyFrame h _ fun frame => frame.sameShape_setProperty name key v)
  | defineFunction name ref => exact hmodify (next_of_frames (h.install _ _) rfl rfl)
  | registerForm name doc accept => exact hmodify (next_of_frames (h.install _ _) rfl rfl)
  | registerExpression name doc accept => exact hmodify (next_of_frames (h.install _ _) rfl rfl)
  | registerNative name parameters doc run =>
      exact registerNative_wellFormed h name parameters doc run

theorem ReachedBy.wellFormed
    (h : ReachedBy limit missing (fun world move => move.Refers world) world) :
    world.WellFormed := by
  induction h with
  | start => exact initial_wellFormed missing
  | move move trace halt fuel reached allowed ih =>
      exact (perform_wellFormed (evaluates_wellFormed halt fuel trace) (ih.withTrace trace)
        allowed).world_after fun _ hnow => hnow

/-- In every reachable world the frame around a frame is older than it, so that every walk outwards
ends at a root, and the frame has the policy for missing variables of that root. A call frame has
one slot and one supply record for each parameter, and the places of names and of supply records are
those of the parameters that declare them. -/
theorem ReachedBy.frames_nested
    (h : ReachedBy limit missing (fun world move => move.Refers world) world) :
    (∀ id frame, world.frame? id = some frame →
      (∀ parent, frame.parent = some parent → parent.index < id.index ∧ world.HasFrame parent) ∧
      world.Outward id (world.chain id) ∧
      (∃ top, world.frame? (world.rootOf id) = some top ∧ top.parent = none ∧
        top.missing = frame.missing) ∧
      ∀ call, frame.call = some call →
        call.slots.length = call.spec.size ∧ call.supplied.length = call.spec.size ∧
        (∀ name index, call.spec.indexOf? name = some index ∨
          call.spec.flagIndex? name = some index → index < call.spec.size) ∧
        call.spec.Indexed) ∧
    ∀ callable ∈ world.defs.functions, callable.spec.Indexed := by
  have hworld := h.wellFormed
  have hnested := hworld.frames
  refine ⟨?_, fun callable hcallable => (hworld.functions callable hcallable).spec.orderly.indexed⟩
  intro id frame hframe
  have hplaced := hnested id frame hframe
  have hwalk := hnested.outward hframe
  refine ⟨?_, hwalk, ?_, ?_⟩
  · intro parent hparent
    exact ⟨hnested.descending id frame parent hframe hparent,
      hnested.enclosed id frame parent hframe hparent⟩
  · obtain ⟨root, top, hlast, htop, hroot, hmissing⟩ := hnested.outward_ends hwalk hframe
    refine ⟨top, ?_, hroot, hmissing⟩
    rw [rootOf, hlast]
    exact htop
  · intro call hcall
    have hfits := hplaced.call call hcall
    have hindexed := hfits.accepted.orderly.indexed
    exact ⟨hfits.slots, hfits.supplied, fun name index => hindexed.lt_size, hindexed⟩

/-- The frame of a call made inside a child of a second root, whose policy is not that of the first.
-/
theorem ReachedBy.frames_nested_second_root :
    let perform (world : World) (move : Move) : World := Eval.worldAfter
      (move.perform (Eval.evaluatorUntil Eval.never 10 10) { world with trace := .empty })
    let spec : LambdaList Node := .ofList [⟨"a", .mandatory, none, none, false, false, false⟩]
    let world := perform (perform (perform (.initial .raise) (.newRoot .nil)) (.newChild ⟨1⟩))
      (.evaluation (.frame World.root ⟨2⟩ ⟨spec, [.missing]⟩))
    ∃ frame, world.frame? ⟨3⟩ = some frame ∧ frame.missing = .nil ∧
      world.chain ⟨3⟩ = [⟨3⟩, ⟨2⟩, ⟨1⟩] ∧ world.Outward ⟨3⟩ (world.chain ⟨3⟩) ∧
      ∃ top, world.frame? (world.rootOf ⟨3⟩) = some top ∧ top.parent = none ∧
        top.missing = frame.missing := by
  intro perform spec world
  have hspec : spec.Accepted := accepted_of_parse
    (show (LambdaList.parse ["a"] : Except Cause (LambdaList Node)) = .ok spec from rfl)
  have harguments : BoundArguments.All Node.Proper ⟨spec, [.missing]⟩ := by
    simp [BoundArguments.All, LambdaParts.defaults, Bound.nodes, spec]
  have hreached : ReachedBy 10 .raise (fun world move => move.Refers world) world :=
    .move _ _ _ _ (.move _ _ _ _ (.move _ _ _ _ .start trivial) ⟨_, rfl⟩)
      ⟨⟨_, rfl⟩, ⟨_, rfl⟩, harguments, hspec⟩
  obtain ⟨-, hwalk, hroot, -⟩ := hreached.frames_nested.1 ⟨3⟩ _ rfl
  exact ⟨_, rfl, rfl, rfl, hwalk, hroot⟩

end World

end LispEngine
