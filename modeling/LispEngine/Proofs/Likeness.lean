import LispEngine.Proofs.Binding
import LispEngine.Proofs.BuiltIns
import LispEngine.Proofs.Handlers
import LispEngine.Proofs.Numbering
import LispEngine.Proofs.Runs

/-!
# Worlds that are alike

Two worlds may differ in their deferred arguments and in what their call sites remember, while
evaluations end in the same way in both. A likeness says how far they may differ; the rules here are
those by which actions agree in like worlds.
-/

namespace LispEngine

def Callable.Plain : Callable → Prop
  | closure _ => True
  | native n => LambdaParts.defaults n.spec = []

theorem Callable.defaults_subset (callable : Callable) :
    LambdaParts.defaults callable.spec ⊆ callable.nodes := by
  cases callable with
  | closure c => exact List.subset_append_left _ _
  | native n => exact List.Subset.refl _

namespace World

def withStores (world : World) (thunks : Array Thunk) (sites : Array (Option CachedCall)) : World :=
  { world with thunks, sites }

structure KeepsStores (world after : World) : Prop where
  thunks : after.thunks = world.thunks
  sites : after.sites = world.sites
  functions : after.defs.functions = world.defs.functions

variable (world : World) (thunks : Array Thunk) (sites : Array (Option CachedCall))

theorem chainWithin_withStores (steps : Nat) (id : FrameId) :
    (world.withStores thunks sites).chainWithin steps id = world.chainWithin steps id := by
  induction steps generalizing id with
  | zero => rfl
  | succ steps ih =>
      have hframe : (world.withStores thunks sites).frame? id = world.frame? id := rfl
      simp only [chainWithin, hframe, ih]

@[simp] theorem chain_withStores (id : FrameId) :
    (world.withStores thunks sites).chain id = world.chain id :=
  world.chainWithin_withStores thunks sites _ id

theorem find?_withStores (id : FrameId) (name : String) :
    (world.withStores thunks sites).find? id name = world.find? id name := by
  rw [find?, chain_withStores]
  rfl

theorem contains_withStores (id : FrameId) (name : String) :
    (world.withStores thunks sites).contains id name = world.contains id name := by
  rw [contains, chain_withStores]
  rfl

theorem update_withStores (discipline : Discipline) (id : FrameId) (name : String) (v : Value) :
    (world.withStores thunks sites).update discipline id name v =
      (world.update discipline id name v).withStores thunks sites := by
  cases discipline with
  | global =>
      simp only [update, updateGlobal, rootOf, chain_withStores]
      rfl
  | nearest =>
      simp only [update, updateNearest, binder?, chain_withStores]
      rfl

theorem remove_eq (world : World) (id : FrameId) (name : String) :
    (world.remove id name).2 = { world with
      frames := (world.chain id).foldl
        (fun frames frame => frames.modify frame.index fun found => (found.remove name).2)
          world.frames } := by
  rw [remove_snd]
  generalize world.chain id = chain
  induction chain generalizing world with
  | nil => rfl
  | cons frame chain ih => exact ih (world.modifyFrame frame fun found => (found.remove name).2)

theorem remove_withStores (id : FrameId) (name : String) :
    ((world.withStores thunks sites).remove id name).2 =
      (world.remove id name).2.withStores thunks sites := by
  rw [remove_eq, remove_eq, chain_withStores]
  rfl

theorem setProperty_withStores (id : FrameId) (name key : String) (v : Value) :
    (world.withStores thunks sites).setProperty id name key v =
      (world.setProperty id name key v).withStores thunks sites := by
  simp only [setProperty, propertyOwner?, chain_withStores]
  rfl

end World

/-- Two deferred arguments are alike: they hold the same value, or the same node for frames in which
it may be visited in the one world and in the other. -/
inductive Thunk.Like (visits : Node → FrameId → FrameId → Prop) : Thunk → Thunk → Prop where
  | pending {node : Node} {scope other : FrameId} (visit : visits node scope other) :
      Like visits (.pending node scope) (.pending node other)
  | forcing : Like visits .forcing .forcing
  | done (v : Value) : Like visits (.done v) (.done v)

namespace Eval

inductive SameResult {α : Type} (R : World → World → Prop) :
    EStateM.Result Signal World α → EStateM.Result Signal World α → Prop where
  | ok {a : α} {world twin : World} (after : R world twin) :
      SameResult R (.ok a world) (.ok a twin)
  | error {signal : Signal} {world twin : World} (after : R world twin) :
      SameResult R (.error signal world) (.error signal twin)

theorem SameResult.bind {α β : Type} {R : World → World → Prop} {a b : Eval α}
    {f g : α → Eval β} {world twin : World} (h : SameResult R (a world) (b twin))
    (hrest : ∀ x after other, a world = .ok x after → R after other →
      SameResult R (f x after) (g x other)) :
    SameResult R ((a >>= f) world) ((b >>= g) twin) := by
  change SameResult R (EStateM.bind a f world) (EStateM.bind b g twin)
  unfold EStateM.bind
  generalize a world = result, b twin = other at h hrest
  cases h with
  | ok after => exact hrest _ _ _ rfl after
  | error after => exact .error after

end Eval

/-- How far two worlds may differ, and in which frames a node may be visited in the one and in the
other. Whatever evaluations do in like worlds, they leave like worlds. -/
structure Likeness where
  related : World → World → Prop
  visits : Node → FrameId → FrameId → Prop
  /-- Only the evaluation of a constant does not depend on its frame. -/
  placed {node : Node} {scope other : FrameId} : visits node scope other →
    scope = other ∨ node.constant?.isSome = true
  child {node : Node} {scope other : FrameId} : visits node scope other →
    ∀ child ∈ node.code.children, ∀ inner, visits child inner inner
  ofValue (v : Value) (scope : FrameId) : visits (.ofValue v none) scope scope
  outside {world twin : World} : related world twin →
    ∃ thunks sites, twin = world.withStores thunks sites
  elsewhere {world twin after : World} : related world twin → world.KeepsStores after →
    related after (after.withStores twin.thunks twin.sites)
  size {world twin : World} : related world twin → twin.thunks.size = world.thunks.size
  thunk {world twin : World} (index : Nat) : related world twin →
    Option.Rel (Thunk.Like visits) world.thunks[index]? twin.thunks[index]?
  addThunk {world twin : World} {node : Node} {scope other : FrameId} : related world twin →
    visits node scope other → related (world.addThunk node scope).2 (twin.addThunk node other).2
  setThunk {world twin : World} {thunk like : Thunk} (id : ThunkId) : related world twin →
    thunk.Like visits like → related (world.setThunk id thunk) (twin.setThunk id like)
  addFunction {world twin : World} {callable : Callable} : related world twin → callable.Plain →
    callable.Declared → (∀ node ∈ callable.nodes, ∀ scope, visits node scope scope) →
    related { world with defs := (world.defs.addFunction callable).2 }
      { twin with defs := (twin.defs.addFunction callable).2 }
  function {world twin : World} {ref : FunctionRef} {callable : Callable} : related world twin →
    world.defs.function? ref = some callable →
    ∀ node ∈ callable.nodes, ∀ scope, visits node scope scope
  bindSite {world twin : World} {node : Node} {scope : FrameId} {site : Nat}
    {arguments : List Node} {ref : FunctionRef} {callable : Callable} : related world twin →
    visits node scope scope → node.code.site? = some (site, arguments) →
    world.defs.function? ref = some callable →
    Eval.SameResult related (Eval.bindSite site arguments ref callable.spec world)
        (Eval.bindSite site arguments ref callable.spec twin) ∧
      ∀ bound after, Eval.bindSite site arguments ref callable.spec world = .ok bound after →
        bound.All fun node => ∀ scope, visits node scope scope

namespace Likeness

variable (L : Likeness)

def Common (node : Node) : Prop := ∀ scope, L.visits node scope scope

variable {L} {world twin : World} (h : L.related world twin)

include h

theorem trace_eq : twin.trace = world.trace := by
  obtain ⟨thunks, sites, rfl⟩ := L.outside h
  rfl

theorem defs_eq : twin.defs = world.defs := by
  obtain ⟨thunks, sites, rfl⟩ := L.outside h
  rfl

theorem withTrace (trace : Backtrace) : L.related { world with trace } { twin with trace } := by
  have hkept : world.KeepsStores { world with trace } := ⟨rfl, rfl, rfl⟩
  have hafter := L.elsewhere h hkept
  obtain ⟨thunks, sites, rfl⟩ := L.outside h
  exact hafter

end Likeness

namespace Eval

variable {α β : Type} {L : Likeness}

def Agree (L : Likeness) (first second : Eval α) : Prop :=
  ∀ world twin, L.related world twin → SameResult L.related (first world) (second twin)

namespace Agree

theorem pure (a : α) : Agree L (Pure.pure a) (Pure.pure a) := fun _ _ hlike => .ok hlike

theorem throw (signal : Signal) : Agree L (throw signal : Eval α) (MonadExcept.throw signal) :=
  fun _ _ hlike => .error hlike

theorem bind {a b : Eval α} {f g : α → Eval β} (h : Agree L a b)
    (hrest : ∀ x, Agree L (f x) (g x)) : Agree L (a >>= f) (b >>= g) :=
  fun world twin hlike => (h world twin hlike).bind fun x after other _ hafter =>
    hrest x after other hafter

theorem observe {a b : Eval α} (h : Agree L a b) : Agree L (observe a) (observe b) := by
  intro world twin hlike
  have hsame := h world twin hlike
  unfold Eval.observe
  generalize a world = result, b twin = other at hsame
  cases hsame with
  | ok after => exact .ok after
  | @error signal _ _ after =>
      cases signal with
      | exhausted => exact .error after
      | failed failure => exact .ok after
      | returned v => exact .ok after

theorem resume (outcome : Except Signal α) : Agree L (resume outcome) (resume outcome) := by
  cases outcome with
  | ok a => exact pure a
  | error signal => exact throw signal

theorem catchReturn {a b : Eval Value} (h : Agree L a b) :
    Agree L (catchReturn a) (catchReturn b) := by
  refine h.observe.bind ?_
  intro outcome
  split
  · exact pure _
  · exact resume _

theorem ite {condition : Prop} [Decidable condition] {a b c d : Eval α} (hthen : Agree L a b)
    (helse : Agree L c d) :
    Agree L (if condition then a else c) (if condition then b else d) := by
  split
  · exact hthen
  · exact helse

theorem fail (cause : Cause) : Agree L (fail cause : Eval α) (Eval.fail cause) := throw _

theorem ofExcept (result : Except Cause α) : Agree L (ofExcept result) (ofExcept result) := by
  cases result with
  | ok a => exact pure a
  | error cause => exact fail cause

theorem get {f g : World → Eval α}
    (hblind : ∀ world thunks sites, g (world.withStores thunks sites) = g world)
    (h : ∀ world, Agree L (f world) (g world)) :
    Agree L (get >>= f) (MonadState.get >>= g) := by
  intro world twin hlike
  have hsame : g twin = g world := by
    obtain ⟨thunks, sites, rfl⟩ := L.outside hlike
    exact hblind world thunks sites
  change SameResult L.related (f world world) (g twin twin)
  rw [hsame]
  exact h world world twin hlike

theorem modifyGet {change : World → α × World}
    (hblind : ∀ world thunks sites, change (world.withStores thunks sites) =
      ((change world).1, (change world).2.withStores thunks sites))
    (hkept : ∀ world : World, world.KeepsStores (change world).2) :
    Agree L (modifyGet change) (MonadState.modifyGet change) := by
  intro world twin hlike
  have hafter := L.elsewhere hlike (hkept world)
  obtain ⟨thunks, sites, rfl⟩ := L.outside hlike
  change SameResult L.related (.ok (change world).1 (change world).2)
    (.ok (change (world.withStores thunks sites)).1 (change (world.withStores thunks sites)).2)
  rw [hblind]
  exact .ok hafter

theorem modify {change : World → World}
    (hblind : ∀ world thunks sites, change (world.withStores thunks sites) =
      (change world).withStores thunks sites)
    (hkept : ∀ world : World, world.KeepsStores (change world)) :
    Agree L (modify change) (modify change) :=
  modifyGet (fun world thunks sites => congrArg (Prod.mk ()) (hblind world thunks sites)) hkept

end Agree

/-! ## Deferred arguments -/

theorem addThunk_agree {node : Node} {scope other : FrameId} (hvisit : L.visits node scope other) :
    Agree L (modifyGet fun world => world.addThunk node scope)
      (modifyGet fun world => world.addThunk node other) := by
  intro world twin hlike
  have hafter := L.addThunk hlike hvisit
  have hid : (twin.addThunk node other).1 = (world.addThunk node scope).1 :=
    congrArg ThunkId.mk (L.size hlike)
  change SameResult L.related (.ok (world.addThunk node scope).1 (world.addThunk node scope).2)
    (.ok (twin.addThunk node other).1 (twin.addThunk node other).2)
  rw [hid]
  exact .ok hafter

theorem setThunk_agree (id : ThunkId) {thunk like : Thunk} (hthunk : thunk.Like L.visits like) :
    Agree L (modify fun world => world.setThunk id thunk)
      (modify fun world => world.setThunk id like) :=
  fun _ _ hlike => .ok (L.setThunk id hlike hthunk)

/-! ## Frames -/

theorem addChild_agree (parent : FrameId) : Agree L (addChild parent) (addChild parent) :=
  .modifyGet (fun _ _ _ => rfl) fun _ => ⟨rfl, rfl, rfl⟩

theorem setLocal_agree (scope : FrameId) (name : String) (v : Value) :
    Agree L (setLocal scope name v) (setLocal scope name v) :=
  .modify (fun _ _ _ => rfl) fun _ => ⟨rfl, rfl, rfl⟩

theorem update_agree (discipline : Discipline) (scope : FrameId) (name : String) (v : Value) :
    Agree L (modify fun world => world.update discipline scope name v)
      (modify fun world => world.update discipline scope name v) := by
  refine .modify (fun world thunks sites =>
    world.update_withStores thunks sites discipline scope name v) ?_
  intro world
  cases discipline with
  | global => exact ⟨rfl, rfl, rfl⟩
  | nearest => exact ⟨rfl, rfl, rfl⟩

theorem define_agree (scope : FrameId) (name : String) (v : Value) :
    Agree L (define scope name v) (define scope name v) := by
  intro world twin hlike
  have hset := setLocal_agree scope name v world twin hlike
  have hbinds : twin.bindsLocally name scope = world.bindsLocally name scope := by
    obtain ⟨thunks, sites, rfl⟩ := L.outside hlike
    rfl
  unfold Eval.define World.define
  rw [hbinds]
  cases world.bindsLocally name scope with
  | true => exact .error hlike
  | false => exact hset

/-! ## Functions -/

theorem addFunction_agree {callable : Callable} (hplain : callable.Plain)
    (hdeclared : callable.Declared) (hnodes : ∀ node ∈ callable.nodes, L.Common node) :
    let add (world : World) : FunctionRef × World :=
      ((world.defs.addFunction callable).1,
        { world with defs := (world.defs.addFunction callable).2 })
    Agree L (modifyGet add) (modifyGet add) := by
  intro add world twin hlike
  have hadded : L.related (add world).2 (add twin).2 := L.addFunction hlike hplain hdeclared hnodes
  have href : (add twin).1 = (add world).1 := by simp only [add, Likeness.defs_eq hlike]
  change SameResult L.related (.ok (add world).1 (add world).2) (.ok (add twin).1 (add twin).2)
  rw [href]
  exact .ok hadded

theorem callableOf_bind_agree {f g : Callable → Eval α} (ref : FunctionRef)
    (hrest : ∀ world twin callable, L.related world twin →
      world.defs.function? ref = some callable →
      SameResult L.related (f callable world) (g callable twin)) :
    Agree L (callableOf ref >>= f) (callableOf ref >>= g) := by
  intro world twin hlike
  have hsame := Likeness.defs_eq hlike
  change SameResult L.related (EStateM.bind (callableOf ref) f world)
    (EStateM.bind (callableOf ref) g twin)
  unfold EStateM.bind
  cases hfunction : world.defs.function? ref with
  | none =>
      rw [callableOf_eq_error hfunction, callableOf_eq_error (hsame ▸ hfunction)]
      exact .error hlike
  | some callable =>
      rw [callableOf_eq_ok hfunction, callableOf_eq_ok (hsame ▸ hfunction)]
      exact hrest world twin callable hlike hfunction

end Eval

end LispEngine
