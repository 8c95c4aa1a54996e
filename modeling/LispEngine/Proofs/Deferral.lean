import LispEngine.Proofs.Backtrace
import LispEngine.Proofs.Runs

/-!
# Deferred arguments

A deferred argument is pending, being forced, or done. A force marks it, evaluates its expression,
and settles it or puts it back. The marks are those of the forces in progress, so that evaluations
leave them as they found them, and a settled argument is never evaluated again.
-/

namespace LispEngine

/-! ## The states of deferred arguments -/

/-- What evaluations do to deferred arguments: pending ones may be settled, and no other state
changes. -/
structure Advances (before after : Array Thunk) : Prop where
  done {index : Nat} {v : Value} :
    before[index]? = some (.done v) → after[index]? = some (.done v)
  forcing {index : Nat} : before[index]? = some .forcing ↔ after[index]? = some .forcing
  pending {index : Nat} {node : Node} {scope : FrameId} :
    before[index]? = some (.pending node scope) →
      after[index]? = some (.pending node scope) ∨ ∃ v, after[index]? = some (.done v)

namespace Advances

variable {before middle after : Array Thunk} {index : Nat} {node : Node} {scope : FrameId}

theorem refl (thunks : Array Thunk) : Advances thunks thunks where
  done h := h
  forcing := Iff.rfl
  pending h := .inl h

theorem trans (h : Advances before middle) (h' : Advances middle after) :
    Advances before after where
  done hdone := h'.done (h.done hdone)
  forcing := h.forcing.trans h'.forcing
  pending := by
    intro index node scope hpending
    rcases h.pending hpending with hsame | ⟨v, hdone⟩
    · exact h'.pending hsame
    · exact .inr ⟨v, h'.done hdone⟩

theorem push (thunks : Array Thunk) (node : Node) (scope : FrameId) :
    Advances thunks (thunks.push (.pending node scope)) := by
  have hkept {index : Nat} {thunk : Thunk} (h : thunks[index]? = some thunk) :
      (thunks.push (.pending node scope))[index]? = some thunk := by
    have hlt : index < thunks.size := (Array.getElem?_eq_some_iff.mp h).1
    rw [Array.getElem?_push, if_neg (Nat.ne_of_lt hlt), h]
  constructor
  · exact hkept
  · intro index
    constructor
    · exact hkept
    · intro h
      rw [Array.getElem?_push] at h
      split at h
      · cases h
      · exact h
  · exact fun h => .inl (hkept h)

theorem unmark {thunk : Thunk} (hpending : before[index]? = some (.pending node scope))
    (h : Advances (before.setIfInBounds index .forcing) after)
    (hthunk : thunk = .pending node scope ∨ ∃ v, thunk = .done v) :
    Advances before (after.setIfInBounds index thunk) := by
  have hbound : index < before.size := (Array.getElem?_eq_some_iff.mp hpending).1
  have hmarked : after[index]? = some .forcing := by
    apply h.forcing.mp
    simp [hbound]
  have hbound' : index < after.size := (Array.getElem?_eq_some_iff.mp hmarked).1
  have hself : (after.setIfInBounds index thunk)[index]? = some thunk := by
    simp [hbound']
  have hother {i : Nat} (hi : index ≠ i) :
      (after.setIfInBounds index thunk)[i]? = after[i]? := by
    simp [hi]
  have hbefore {i : Nat} (hi : index ≠ i) :
      (before.setIfInBounds index .forcing)[i]? = before[i]? := by
    simp [hi]
  constructor
  · intro i v hdone
    have hi : index ≠ i := by
      rintro rfl
      rw [hpending] at hdone
      cases hdone
    rw [hother hi]
    exact h.done ((hbefore hi).trans hdone)
  · intro i
    by_cases hi : index = i
    · subst hi
      rw [hpending, hself]
      rcases hthunk with rfl | ⟨v, rfl⟩
      · simp
      · simp
    · rw [hother hi, ← h.forcing, hbefore hi]
  · intro i other inner hsome
    by_cases hi : index = i
    · subst hi
      rw [hself]
      obtain ⟨rfl, rfl⟩ : node = other ∧ scope = inner := by simpa [hpending] using hsome
      rcases hthunk with rfl | ⟨v, rfl⟩
      · exact .inl rfl
      · exact .inr ⟨v, rfl⟩
    · rw [hother hi]
      exact h.pending ((hbefore hi).trans hsome)

end Advances

/-- The given deferred argument, if any, is in the given state. -/
def Pinned (index : Nat) (state : Option Thunk) (world : World) : Prop :=
  ∀ thunk, state = some thunk → world.thunks[index]? = some thunk

theorem deferral_ambient (limit index : Nat) {state : Option Thunk}
    (hstate : ∀ node scope, state ≠ some (.pending node scope)) :
    Ambient limit (Pinned index state) fun before after => Advances before.thunks after.thunks where
  refl world := .refl world.thunks
  trans := Advances.trans
  elsewhere := by
    intro world after hpinned hthunks _
    unfold Pinned
    rw [hthunks]
    exact ⟨hpinned, .refl _⟩
  addThunk := by
    intro world node scope hpinned
    refine ⟨?_, .push world.thunks node scope⟩
    intro thunk hthunk
    have hfound := hpinned thunk hthunk
    have hlt : index < world.thunks.size := (Array.getElem?_eq_some_iff.mp hfound).1
    simp only [World.addThunk]
    rw [Array.getElem?_push, if_neg (Nat.ne_of_lt hlt), hfound]
  mark := by
    intro world id node scope hpinned hpending thunk hthunk
    have hfound := hpinned thunk hthunk
    have hother : id.index ≠ index := by
      rintro rfl
      rw [hpending] at hfound
      exact hstate node scope (hthunk.trans hfound.symm)
    simpa [World.setThunk, hother] using hfound
  unmark := by
    intro world after id node scope thunk hpinned hpending hpinned' hchange hthunk
    refine ⟨?_, hchange.unmark hpending (hthunk.imp_right fun ⟨v, hdone, _⟩ => ⟨v, hdone⟩)⟩
    intro own hown
    have hother : id.index ≠ index := by
      rintro rfl
      have hfound := hpinned own hown
      rw [hpending] at hfound
      exact hstate node scope (hown.trans hfound.symm)
    simpa [World.setThunk, hother] using hpinned' own hown
  entered _ hpinned _ := hpinned
  left _ hpinned hchange := ⟨hpinned, hchange⟩

namespace Eval

variable {ev : Evaluator} {world after : World} {id : ThunkId} {node : Node} {scope : FrameId}
  {v : Value}

theorem node_advances (limit fuel : Nat) (scope : FrameId) (node : Node) (world : World)
    (hfinished : ∀ after, (evaluator limit fuel).node scope node world ≠ .error .exhausted after) :
    Advances world.thunks (worldAfter ((evaluator limit fuel).node scope node world)).thunks := by
  have hfree : Pinned 0 none world := by
    intro thunk h
    cases h
  have hkeeps := (deferral_ambient limit 0 (by simp)).node_keeps never fuel hfree scope node
  rw [evaluatorUntil_never] at hkeeps
  exact (hkeeps.next hfinished).change

/-! ## Forcing -/

theorem getElem?_setThunk {index : Nat} {old : Thunk} (h : world.thunks[index]? = some old)
    (thunk : Thunk) : (world.setThunk ⟨index⟩ thunk).thunks[index]? = some thunk := by
  have hlt : index < world.thunks.size := (Array.getElem?_eq_some_iff.mp h).1
  simp [World.setThunk, hlt]

end Eval

/-! ## Sessions -/

def Eval.KeepsThunks {α : Type} (action : Eval α) : Prop :=
  ∀ world, (worldAfter (action world)).thunks = world.thunks

namespace Eval.KeepsThunks

variable {α β : Type}

theorem bind {action : Eval α} {next : α → Eval β} (h : KeepsThunks action)
    (hnext : ∀ a, KeepsThunks (next a)) : KeepsThunks (action >>= next) := by
  intro world
  have hfirst := h world
  change (worldAfter (EStateM.bind action next world)).thunks = world.thunks
  unfold EStateM.bind
  cases hrun : action world with
  | ok a middle =>
      rw [hrun] at hfirst
      exact (hnext a middle).trans hfirst
  | error signal middle =>
      rw [hrun] at hfirst
      exact hfirst

theorem pure (a : α) : KeepsThunks (Pure.pure a : Eval α) := fun _ => rfl

theorem failed (cause : Cause) : KeepsThunks (fail cause : Eval α) := fun _ => rfl

theorem discard {action : Eval α} (h : KeepsThunks action) : KeepsThunks (do let _ ← action) :=
  h.bind fun _ => .pure ()

theorem modified {change : World → World} (h : ∀ world, (change world).thunks = world.thunks) :
    KeepsThunks (modify change) := h

theorem compiling (compilation : Definitions → Compile α) :
    KeepsThunks (Interpreter.compiling compilation) := by
  intro world
  unfold Interpreter.compiling
  cases compilation world.defs world.sites.size with
  | ok a count => rfl
  | error signal count => rfl

end Eval.KeepsThunks

theorem World.thunks_remove (world : World) (id : FrameId) (name : String) :
    (world.remove id name).2.thunks = world.thunks := by
  rw [World.remove_snd]
  generalize world.chain id = frames
  induction frames generalizing world with
  | nil => rfl
  | cons frame frames ih => exact ih (world.modifyFrame frame fun found => (found.remove name).2)

private theorem registerNative_keepsThunks (name : String) (parameters : List String) (doc : String)
    (run : Backtrace → List Value → HostAction) :
    Eval.KeepsThunks (Interpreter.registerNative name parameters doc run) := by
  unfold Interpreter.registerNative
  cases (LambdaList.parse parameters : Except Cause (LambdaList Node)) with
  | error cause => exact fun _ => rfl
  | ok spec =>
      refine Eval.KeepsThunks.bind (.pure spec) ?_
      intro spec
      split
      · exact .failed _
      · exact .modified fun _ => rfl

private theorem Move.perform_keeps_thunk (ev : Evaluator) {move : Move}
    (hmove : ∀ routine, move ≠ .evaluation routine) {world : World} {index : Nat} {thunk : Thunk}
    (h : world.thunks[index]? = some thunk) :
    (Eval.worldAfter (move.perform ev world)).thunks[index]? = some thunk := by
  have hkept (hkeeps : Eval.KeepsThunks (move.perform ev)) :
      (Eval.worldAfter (move.perform ev world)).thunks[index]? = some thunk := by
    rw [hkeeps world, h]
  cases move with
  | evaluation routine => exact absurd rfl (hmove routine)
  | defer node scope =>
      have hlt : index < world.thunks.size := (Array.getElem?_eq_some_iff.mp h).1
      change (world.thunks.push _)[index]? = some thunk
      rw [Array.getElem?_push, if_neg (Nat.ne_of_lt hlt), h]
  | compile form => exact hkept (Eval.KeepsThunks.compiling _).discard
  | compileDirect form => exact hkept (Eval.KeepsThunks.compiling _).discard
  | compileParameters forms => exact hkept (Eval.KeepsThunks.compiling _).discard
  | newRoot missing => exact hkept (.modified fun _ => rfl)
  | newChild parent => exact hkept (.modified fun _ => rfl)
  | define scope name v =>
      refine hkept fun world => ?_
      simp only [Move.perform, Eval.define, World.define]
      cases world.bindsLocally name scope with
      | true => rfl
      | false => rfl
  | setLocal scope name v => exact hkept (.modified fun _ => rfl)
  | update discipline scope name v =>
      cases discipline with
      | global => exact hkept (.modified fun _ => rfl)
      | nearest => exact hkept (.modified fun _ => rfl)
  | remove scope name => exact hkept (.modified fun world => world.thunks_remove scope name)
  | setProperty scope name key v => exact hkept (.modified fun _ => rfl)
  | defineFunction name ref => exact hkept (.modified fun _ => rfl)
  | registerForm name doc accept => exact hkept (.modified fun _ => rfl)
  | registerExpression name doc accept => exact hkept (.modified fun _ => rfl)
  | registerNative name parameters doc run =>
      exact hkept (registerNative_keepsThunks name parameters doc run)

/-- The worlds that moves lead to, or go through, from a given one. -/
inductive World.Later (limit : Nat) (world : World) : World → Prop where
  | now : Later limit world world
  | move {middle : World} (move : Move) (trace : Backtrace) (halt : World → Bool) (fuel : Nat)
      (later : Later limit world middle) :
      Later limit world (Eval.worldAfter
        (move.perform (Eval.evaluatorUntil halt limit fuel) { middle with trace }))

theorem World.Later.done {limit index : Nat} {world later : World} {v : Value}
    (h : World.Later limit world later) (hdone : world.thunks[index]? = some (.done v)) :
    later.thunks[index]? = some (.done v) := by
  induction h with
  | now => exact hdone
  | @move middle move trace halt fuel _ ih =>
      by_cases hmove : ∃ routine, move = .evaluation routine
      · obtain ⟨routine, rfl⟩ := hmove
        have hpinned : Pinned index (some (.done v)) { middle with trace } := by
          rintro thunk ⟨⟩
          exact ih
        have hkeeps :=
          (deferral_ambient limit index (by simp)).routine_keeps halt fuel hpinned routine
        exact hkeeps.world_after (fun _ hnow => hnow) _ rfl
      · exact Move.perform_keeps_thunk _ (fun routine hsame => hmove ⟨routine, hsame⟩) ih

end LispEngine
