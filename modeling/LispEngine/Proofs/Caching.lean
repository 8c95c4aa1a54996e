import LispEngine.Proofs.Parallel
import LispEngine.Proofs.Sites

/-!
# Twins

Worlds that differ only in what their call sites remember are twins, and evaluations go alike in
twins.
-/

namespace LispEngine

namespace Twins

variable {log : SiteLog} {world twin : World} (h : Twins log world twin)

include h

theorem bindSite {site : Nat} {arguments : List Node} {ref : FunctionRef} {callable : Callable}
    (hsite : log[site]? = some arguments) (hfunction : world.defs.function? ref = some callable) :
    Eval.SameResult (Twins log) (Eval.bindSite site arguments ref callable.spec world)
      (Eval.bindSite site arguments ref callable.spec twin) ∧
    ∀ bound after, Eval.bindSite site arguments ref callable.spec world = .ok bound after →
      bindArguments callable.spec arguments = .ok bound := by
  obtain ⟨⟨sites, rfl⟩, hleft, hright⟩ := h
  cases hbound : bindArguments callable.spec arguments with
  | error cause =>
      have hrun := hleft.bindSite_error hsite hfunction hbound
      rw [hrun, hright.bindSite_error hsite hfunction hbound]
      exact ⟨.error ⟨⟨sites, rfl⟩, hleft, hright⟩, by simp⟩
  | ok bound =>
      obtain ⟨after, hrun, hafter⟩ := hleft.bindSite_ok hsite hfunction hbound
      obtain ⟨other, hrun', hother⟩ := hright.bindSite_ok hsite hfunction hbound
      rw [hrun, hrun']
      refine ⟨.ok ⟨⟨other, rfl⟩, hafter, hother⟩, ?_⟩
      intro found last heq
      cases heq
      rfl

end Twins

/-- Twins are alike: nodes whose call sites have their numbers in the log are visited in the same
frames in both. -/
def Likeness.twins (log : SiteLog) : Likeness where
  related := Twins log
  visits node scope other := scope = other ∧ node.Sited log
  placed h := .inl h.1
  child h child hchild _ := ⟨rfl, h.2.inner child hchild⟩
  ofValue v _ := ⟨rfl, .of_children rfl (by simp [Node.ofValue, CodeOf.children])⟩
  outside {world twin} h := by
    obtain ⟨sites, rfl⟩ := h.same
    exact ⟨world.thunks, sites, rfl⟩
  elsewhere {world twin after} h hkept := by
    obtain ⟨sites, rfl⟩ := h.same
    have hthunks : after.withStores world.thunks sites = after.withSites sites := by
      rw [← hkept.thunks]
      rfl
    have hright : (world.withSites sites).KeepsStores (after.withSites sites) :=
      ⟨hkept.thunks, rfl, hkept.functions⟩
    refine ⟨⟨sites, hthunks⟩, h.left.keepsStores hkept, ?_⟩
    rw [show after.withStores (world.withSites sites).thunks (world.withSites sites).sites =
      after.withSites sites from hthunks]
    exact h.right.keepsStores hright
  size h := by
    obtain ⟨sites, rfl⟩ := h.same
    rfl
  thunk {world twin} index h := by
    obtain ⟨⟨sites, rfl⟩, hleft, -⟩ := h
    change Option.Rel _ world.thunks[index]? world.thunks[index]?
    cases hthunk : world.thunks[index]? with
    | none => exact .none
    | some thunk =>
        cases thunk with
        | pending node scope => exact .some (.pending ⟨rfl, hleft.thunks hthunk⟩)
        | forcing => exact .some .forcing
        | done v => exact .some (.done v)
  addThunk {world twin node scope other} h hvisit := by
    obtain ⟨rfl, hnode⟩ := hvisit
    obtain ⟨⟨sites, rfl⟩, hleft, hright⟩ := h
    exact ⟨⟨sites, rfl⟩, hleft.addThunk scope hnode, hright.addThunk scope hnode⟩
  setThunk {world twin thunk like} id h hlike := by
    obtain rfl : thunk = like := by
      cases hlike with
      | pending visit => rw [visit.1]
      | forcing => rfl
      | done v => rfl
    have hpending : ∀ node scope, thunk = .pending node scope → node.Sited log := by
      intro node scope heq
      subst heq
      cases hlike with
      | pending visit => exact visit.2
    obtain ⟨⟨sites, rfl⟩, hleft, hright⟩ := h
    exact ⟨⟨sites, rfl⟩, hleft.setThunk id hpending, hright.setThunk id hpending⟩
  addFunction {world twin callable} h hplain _ hnodes := by
    have hsited : ∀ node ∈ callable.nodes, node.Sited log :=
      fun node hnode => (hnodes node hnode World.root).2
    obtain ⟨⟨sites, rfl⟩, hleft, hright⟩ := h
    exact ⟨⟨sites, rfl⟩, hleft.addFunction hplain hsited, hright.addFunction hplain hsited⟩
  function h hfunction node hnode _ := ⟨rfl, h.left.functions hfunction node hnode⟩
  bindSite {world twin node scope site arguments ref callable} h hvisit hsite hfunction := by
    obtain ⟨hsame, hbound⟩ := h.bindSite (hvisit.2.own hsite) hfunction
    refine ⟨hsame, ?_⟩
    intro bound after hrun
    have hspec : ∀ child ∈ LambdaParts.defaults callable.spec, child.Sited log :=
      fun child hchild => h.left.functions hfunction child (callable.defaults_subset hchild)
    have harguments : ∀ child ∈ arguments, child.Sited log :=
      fun child hchild => hvisit.2.inner child (CodeOf.arguments_subset hsite hchild)
    have hplainly := bindArguments_plainly callable.spec arguments hspec harguments
    rw [hbound bound after hrun] at hplainly
    obtain ⟨hdefaults, hbounds⟩ := hplainly
    exact ⟨fun child hchild _ => ⟨rfl, hdefaults child hchild⟩,
      fun b hb child hchild _ => ⟨rfl, hbounds b hb child hchild⟩⟩

end LispEngine
