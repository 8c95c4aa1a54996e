import LispEngine.Proofs.Parallel

/-!
# Lexical scoping

A function sees its caller through its arguments only. Called on constants, it ends in the same way
whoever calls it, and leaves the same world but for the frames in which constants stay deferred.
-/

namespace LispEngine

/-- A node that is deferred in different frames is a constant. -/
def Node.Movable (node : Node) (scope other : FrameId) : Prop :=
  scope = other ∨ node.constant?.isSome = true

/-- Two worlds differ at most in the frames that constants are deferred in. -/
structure World.SameButScopes (world twin : World) : Prop where
  frames : twin.frames = world.frames
  defs : twin.defs = world.defs
  sites : twin.sites = world.sites
  errorCount : twin.errorCount = world.errorCount
  trace : twin.trace = world.trace
  size : twin.thunks.size = world.thunks.size
  thunk (index : Nat) :
    Option.Rel (Thunk.Like Node.Movable) world.thunks[index]? twin.thunks[index]?

namespace World.SameButScopes

theorem refl (world : World) : world.SameButScopes world := by
  refine ⟨rfl, rfl, rfl, rfl, rfl, rfl, ?_⟩
  intro index
  cases world.thunks[index]? with
  | none => exact .none
  | some thunk =>
      refine .some ?_
      cases thunk with
      | pending node scope => exact .pending (.inl rfl)
      | forcing => exact .forcing
      | done v => exact .done v

variable {world twin : World} (h : world.SameButScopes twin)

include h

theorem eq_withStores : twin = world.withStores twin.thunks world.sites := by
  obtain ⟨frames, thunks, defs, sites, errorCount, trace⟩ := twin
  obtain ⟨rfl, rfl, rfl, rfl, rfl, -, -⟩ := h
  rfl

theorem addThunk {node : Node} {scope other : FrameId} (hmove : node.Movable scope other) :
    (world.addThunk node scope).2.SameButScopes (twin.addThunk node other).2 := by
  have hsize : (twin.thunks.push (.pending node other)).size =
      (world.thunks.push (.pending node scope)).size := by
    simp only [Array.size_push, h.size]
  refine ⟨h.frames, h.defs, h.sites, h.errorCount, h.trace, hsize, ?_⟩
  intro index
  simp only [World.addThunk, Array.getElem?_push, h.size]
  split
  · exact .some (.pending hmove)
  · exact h.thunk index

theorem setThunk (id : ThunkId) {thunk like : Thunk} (hlike : thunk.Like Node.Movable like) :
    (world.setThunk id thunk).SameButScopes (twin.setThunk id like) := by
  have hsize : (twin.thunks.setIfInBounds id.index like).size =
      (world.thunks.setIfInBounds id.index thunk).size := by
    simp only [Array.size_setIfInBounds, h.size]
  refine ⟨h.frames, h.defs, h.sites, h.errorCount, h.trace, hsize, ?_⟩
  intro index
  simp only [World.setThunk, Array.getElem?_setIfInBounds, h.size]
  split
  · split
    · exact .some hlike
    · exact .none
  · exact h.thunk index

theorem remember (site : Nat) (call : CachedCall) :
    (world.remember site call).SameButScopes (twin.remember site call) := by
  refine ⟨h.frames, h.defs, ?_, h.errorCount, h.trace, h.size, h.thunk⟩
  simp only [World.remember, h.sites]

theorem bindSite (site : Nat) (arguments : List Node) (ref : FunctionRef) (spec : LambdaList Node) :
    Eval.SameResult SameButScopes (Eval.bindSite site arguments ref spec world)
      (Eval.bindSite site arguments ref spec twin) := by
  have hcached : twin.cached? site = world.cached? site := by
    simp only [World.cached?, h.sites]
  have hnew : Eval.SameResult SameButScopes
      ((do
        let bound ← Eval.ofExcept (bindArguments spec arguments)
        modify fun world => world.remember site ⟨ref.id, bound⟩
        return bound : Eval BoundArguments) world)
      ((do
        let bound ← Eval.ofExcept (bindArguments spec arguments)
        modify fun world => world.remember site ⟨ref.id, bound⟩
        return bound : Eval BoundArguments) twin) := by
    cases bindArguments spec arguments with
    | error cause => exact .error h
    | ok bound => exact .ok (h.remember site _)
  unfold Eval.bindSite
  simp only [Eval.run_get_bind, hcached]
  cases world.cached? site with
  | none => exact hnew
  | some call =>
      by_cases hsame : call.callee = ref.id
      · simp only [hsame, if_true]
        exact .ok h
      · simp only [hsame, if_false]
        exact hnew

end World.SameButScopes

def Likeness.lexical : Likeness where
  related := World.SameButScopes
  visits := Node.Movable
  placed h := h
  child _ _ _ _ := .inl rfl
  ofValue _ _ := .inl rfl
  outside h := ⟨_, _, h.eq_withStores⟩
  elsewhere {world twin after} h hkept := by
    refine ⟨rfl, rfl, h.sites.trans hkept.sites.symm, rfl, rfl, ?_, ?_⟩
    · exact h.size.trans (congrArg Array.size hkept.thunks.symm)
    · intro index
      rw [hkept.thunks]
      exact h.thunk index
  size h := h.size
  thunk index h := h.thunk index
  addThunk h hmove := h.addThunk hmove
  setThunk id h hlike := h.setThunk id hlike
  addFunction h _ _ _ :=
    ⟨h.frames, by rw [h.defs], h.sites, h.errorCount, h.trace, h.size, h.thunk⟩
  function _ _ _ _ _ := .inl rfl
  bindSite h _ _ _ :=
    ⟨h.bindSite _ _ _ _, fun _ _ _ => ⟨fun _ _ _ => .inl rfl, fun _ _ _ _ _ => .inl rfl⟩⟩

/-- A function that is called on constants ends in the same way whoever calls it: with the same
value, or the same failure with the same backtrace. The worlds after the two calls have the same
frames, and differ at most in the frames that constants are deferred in. -/
theorem Eval.invoke_lexical (limit fuel : Nat) {callable : Callable} {nodes : List Node}
    (hnodes : ∀ node ∈ nodes, node.constant?.isSome = true) {arguments : BoundArguments}
    (hbound : bindArguments callable.spec nodes = .ok arguments) (caller other : FrameId)
    (world : World) :
    SameResult World.SameButScopes (invoke (evaluator limit fuel) caller callable arguments world)
      (invoke (evaluator limit fuel) other callable arguments world) := by
  have hsupplied : ∀ bound ∈ arguments.bound, ∀ node ∈ bound.nodes, node.Movable caller other :=
    bindArguments_supplies hbound fun node hnode => .inr (hnodes node hnode)
  have hagree : Agree .lexical (invoke (evaluator limit fuel) caller callable arguments)
      (invoke (evaluator limit fuel) other callable arguments) :=
    invoke_agree (evaluator_agree limit fuel) (fun _ _ _ => .inl rfl)
      (fun _ _ _ => .inl rfl) hsupplied
  exact hagree world world (.refl world)

/-- A function with a lazy parameter that reads a free variable, called from two frames that bind
the variable to different values: it sees the binding in neither, and the parameter stays deferred
in the frame of its caller. -/
theorem Eval.invoke_lexical_free_variable :
    let child (n : Int32) : Frame :=
      { Frame.root .nil with locals := [("X", .int n)], parent := some World.root }
    let world := (((World.initial .nil).addFrame (child 1)).2.addFrame (child 2)).2
    let spec : LambdaList Node := .ofList [⟨"A", .mandatory, none, none, false, true, false⟩]
    let callable : Callable :=
      .closure ⟨none, ⟨spec, none, [⟨.readVariable "X", "X", none⟩]⟩, World.root⟩
    let argument := Node.ofValue (.int 7) none
    let call (caller : Nat) : EStateM.Result Signal World Value :=
      invoke (evaluator 10 5) ⟨caller⟩ callable ⟨spec, [.single argument]⟩ world
    (world.find? ⟨1⟩ "X" = some (.value (.int 1)) ∧ world.find? ⟨2⟩ "X" = some (.value (.int 2))) ∧
      bindArguments callable.spec [argument] = .ok ⟨spec, [.single argument]⟩ ∧
        (∃ first second, call 1 = .ok .nil first ∧ call 2 = .ok .nil second ∧
          first.thunks = #[.pending argument ⟨1⟩] ∧ second.thunks = #[.pending argument ⟨2⟩]) ∧
          SameResult World.SameButScopes (call 1) (call 2) := by
  intro child world spec callable argument call
  have hconstant : ∀ node ∈ [argument], node.constant?.isSome = true := by
    intro node hnode
    obtain rfl := List.mem_singleton.mp hnode
    rfl
  refine ⟨⟨rfl, rfl⟩, rfl, ⟨_, _, rfl, rfl, rfl, rfl⟩, ?_⟩
  exact invoke_lexical 10 5 hconstant rfl ⟨1⟩ ⟨2⟩ world

end LispEngine
