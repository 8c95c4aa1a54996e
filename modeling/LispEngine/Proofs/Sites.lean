import LispEngine.Proofs.Likeness

/-!
# What call sites remember

A call site remembers the function that it called last, with its bound arguments. Functions are
added and never replaced, and the number of a site stands for one call, so that what is remembered
is what binding the arguments again would give.
-/

namespace LispEngine

def World.withSites (world : World) (sites : Array (Option CachedCall)) : World :=
  { world with sites }

/-- What the call sites of a world remember is right for the calls of a log, and the nodes that
evaluations can come to are sited. -/
structure World.Logged (log : SiteLog) (world : World) : Prop where
  size : world.sites.size = log.length
  cached {site : Nat} {call : CachedCall} : world.cached? site = some call →
    ∃ arguments callable, log[site]? = some arguments ∧
      world.defs.functions[call.callee]? = some callable ∧
      bindArguments callable.spec arguments = .ok call.arguments
  thunks {index : Nat} {node : Node} {scope : FrameId} :
    world.thunks[index]? = some (.pending node scope) → node.Sited log
  functions {index : Nat} {callable : Callable} :
    world.defs.functions[index]? = some callable → ∀ node ∈ callable.nodes, node.Sited log
  plain : ∀ callable ∈ world.defs.functions, callable.Plain

/-- Two worlds differ only in what their call sites remember, and both remember rightly. -/
structure Twins (log : SiteLog) (world twin : World) : Prop where
  same : ∃ sites, twin = world.withSites sites
  left : world.Logged log
  right : twin.Logged log

structure World.Forgets (world erased : World) : Prop where
  same : ∃ sites, erased = world.withSites sites
  size : erased.sites.size = world.sites.size
  kept (site : Nat) : erased.cached? site = world.cached? site ∨ erased.cached? site = none

def World.forgetAll (world : World) : World := world.withSites (world.sites.map fun _ => none)

theorem World.forgetAll_forgets (world : World) : world.Forgets world.forgetAll where
  same := ⟨_, rfl⟩
  size := Array.size_map
  kept site := by
    right
    simp only [cached?, forgetAll, withSites, Array.getElem?_map]
    cases world.sites[site]? with
    | none => rfl
    | some call => rfl

namespace World.Logged

variable {log : SiteLog} {world : World} (h : world.Logged log)

include h

theorem forget {erased : World} (hforgets : world.Forgets erased) : erased.Logged log := by
  have hsize := hforgets.size
  have hkept := hforgets.kept
  obtain ⟨sites, rfl⟩ := hforgets.same
  refine ⟨hsize.trans h.size, ?_, h.thunks, h.functions, h.plain⟩
  intro site call hcached
  rcases hkept site with hsame | hnone
  · exact h.cached (hsame ▸ hcached)
  · cases hnone.symm.trans hcached

theorem growSites {later : SiteLog} (hlater : log <+: later) :
    (world.growSites later.length).Logged later := by
  refine ⟨?_, ?_, fun hthunk => (h.thunks hthunk).mono hlater,
    fun hfunction node hnode => (h.functions hfunction node hnode).mono hlater, h.plain⟩
  · have hlength := hlater.length_le
    simp only [World.growSites, Array.size_append, Array.size_replicate, h.size]
    omega
  · intro site call hcached
    have hold : world.cached? site = some call := by
      simp only [World.cached?, World.growSites, Array.getElem?_append,
        Array.getElem?_replicate] at hcached
      split at hcached
      · exact hcached
      · split at hcached
        · cases hcached
        · cases hcached
    obtain ⟨arguments, callable, hsite, hcallable, hbound⟩ := h.cached hold
    exact ⟨arguments, callable, SiteLog.getElem?_mono hlater hsite, hcallable, hbound⟩

theorem keepsStores {after : World} (hkept : world.KeepsStores after) : after.Logged log := by
  obtain ⟨hthunks, hsites, hfunctions⟩ := hkept
  refine ⟨hsites ▸ h.size, ?_, hthunks ▸ h.thunks, hfunctions ▸ h.functions,
    hfunctions ▸ h.plain⟩
  intro site call hcached
  rw [hfunctions]
  rw [World.cached?, hsites] at hcached
  exact h.cached hcached

theorem addThunk {node : Node} (scope : FrameId) (hnode : node.Sited log) :
    (world.addThunk node scope).2.Logged log := by
  refine ⟨h.size, h.cached, ?_, h.functions, h.plain⟩
  intro index found owner hfound
  simp only [World.addThunk, Array.getElem?_push] at hfound
  split at hfound
  · cases hfound
    exact hnode
  · exact h.thunks hfound

theorem setThunk (id : ThunkId) {thunk : Thunk}
    (hthunk : ∀ node scope, thunk = .pending node scope → node.Sited log) :
    (world.setThunk id thunk).Logged log := by
  refine ⟨h.size, h.cached, ?_, h.functions, h.plain⟩
  intro index node scope hfound
  simp only [World.setThunk, Array.getElem?_setIfInBounds] at hfound
  split at hfound
  · split at hfound
    · exact hthunk node scope (Option.some.inj hfound)
    · cases hfound
  · exact h.thunks hfound

theorem addFunction {callable : Callable} (hplain : callable.Plain)
    (hnodes : ∀ node ∈ callable.nodes, node.Sited log) :
    { world with defs := (world.defs.addFunction callable).2 }.Logged log := by
  refine ⟨h.size, ?_, h.thunks, ?_, ?_⟩
  · intro site call hcached
    obtain ⟨arguments, found, hlog, hfound, hbound⟩ := h.cached hcached
    refine ⟨arguments, found, hlog, ?_, hbound⟩
    -- the function that was called is still there
    obtain ⟨hlt, -⟩ := Array.getElem?_eq_some_iff.mp hfound
    simpa [Definitions.addFunction, Array.getElem?_push, Nat.ne_of_lt hlt] using hfound
  · intro index found hfound
    simp only [Definitions.addFunction, Array.getElem?_push] at hfound
    split at hfound
    · cases hfound
      exact hnodes
    · exact h.functions hfound
  · intro found hfound
    rcases Array.mem_push.mp hfound with hold | rfl
    · exact h.plain found hold
    · exact hplain

theorem remember {site : Nat} {call : CachedCall} {arguments : List Node} {callable : Callable}
    (hsite : log[site]? = some arguments)
    (hcallee : world.defs.functions[call.callee]? = some callable)
    (hbound : bindArguments callable.spec arguments = .ok call.arguments) :
    (world.remember site call).Logged log := by
  refine ⟨?_, ?_, h.thunks, h.functions, h.plain⟩
  · simpa [World.remember] using h.size
  · intro other found hfound
    simp only [World.cached?, World.remember, Array.getElem?_setIfInBounds] at hfound
    split at hfound
    · rename_i heq
      subst heq
      split at hfound
      · cases hfound
        exact ⟨arguments, callable, hsite, hcallee, hbound⟩
      · cases hfound
    · exact h.cached hfound

end World.Logged

namespace World.Logged

open Eval

variable {log : SiteLog} {world : World} (h : world.Logged log) {site : Nat}
  {arguments : List Node} {ref : FunctionRef} {callable : Callable}
  (hsite : log[site]? = some arguments) (hcallee : world.defs.function? ref = some callable)

include h hsite hcallee

theorem cached_eq {call : CachedCall} (hcached : world.cached? site = some call)
    (hsame : call.callee = ref.id) :
    bindArguments callable.spec arguments = .ok call.arguments := by
  obtain ⟨logged, found, hlogged, hfound, hbound⟩ := h.cached hcached
  rw [hsite] at hlogged
  rw [hsame] at hfound
  cases hlogged
  cases hcallee.symm.trans hfound
  exact hbound

theorem bindSite_error {cause : Cause}
    (hbound : bindArguments callable.spec arguments = .error cause) :
    bindSite site arguments ref callable.spec world = .error (.failed (.of cause)) world := by
  unfold bindSite
  simp only [run_get_bind]
  cases hcached : world.cached? site with
  | none =>
      rw [hbound]
      rfl
  | some call =>
      have hother : ¬call.callee = ref.id := by
        intro hsame
        cases hbound.symm.trans (h.cached_eq hsite hcallee hcached hsame)
      simp only [hother, hbound]
      rfl

theorem bindSite_ok {bound : BoundArguments}
    (hbound : bindArguments callable.spec arguments = .ok bound) :
    ∃ sites, bindSite site arguments ref callable.spec world = .ok bound (world.withSites sites) ∧
      (world.withSites sites).Logged log := by
  have hnew : (world.remember site ⟨ref.id, bound⟩).Logged log := h.remember hsite hcallee hbound
  unfold bindSite
  simp only [run_get_bind]
  cases hcached : world.cached? site with
  | none =>
      rw [hbound]
      exact ⟨_, rfl, hnew⟩
  | some call =>
      by_cases hsame : call.callee = ref.id
      · have hfresh := h.cached_eq hsite hcallee hcached hsame
        cases hbound.symm.trans hfresh
        simp only [hsame, if_true]
        exact ⟨world.sites, rfl, h⟩
      · simp only [hsame, if_false, hbound]
        exact ⟨_, rfl, hnew⟩

end World.Logged

end LispEngine
