import LispEngine.Eval.Call

/-!
# Runs of actions

How an action that is put together from others runs in a world, in terms of the runs of its parts.
-/

namespace LispEngine.Eval

variable {α β : Type} {world after : World}

@[simp] theorem run_throw (signal : Signal) (world : World) :
    (throw signal : Eval α) world = .error signal world := rfl

@[simp] theorem run_get_bind (next : World → Eval α) (world : World) :
    (get >>= next) world = next world world := rfl

@[simp] theorem run_modify_bind (change : World → World) (next : Unit → Eval α) (world : World) :
    (modify change >>= next) world = next () (change world) := rfl

theorem bind_eq_ok_iff {ε σ : Type} {action : EStateM ε σ α} {next : α → EStateM ε σ β} {b : β}
    {before last : σ} :
    (action >>= next) before = .ok b last ↔
      ∃ a middle, action before = .ok a middle ∧ next a middle = .ok b last := by
  change EStateM.bind action next before = .ok b last ↔ _
  unfold EStateM.bind
  cases action before with
  | ok a middle => simp [and_assoc]
  | error signal middle => simp

theorem bind_eq_error_iff {action : Eval α} {next : α → Eval β} {signal : Signal} :
    (action >>= next) world = .error signal after ↔
      action world = .error signal after ∨
        ∃ a middle, action world = .ok a middle ∧ next a middle = .error signal after := by
  change EStateM.bind action next world = .error signal after ↔ _
  unfold EStateM.bind
  cases action world with
  | ok a middle => simp [and_assoc]
  | error cause middle => simp

theorem exists_of_run' {action : Eval α} {a : α} (h : EStateM.run' action world = some a) :
    ∃ after, action world = .ok a after := by
  delta EStateM.run' EStateM.run at h
  cases hrun : action world with
  | ok b after =>
      rw [hrun] at h
      obtain rfl := Option.some.inj h
      exact ⟨after, rfl⟩
  | error signal after =>
      rw [hrun] at h
      cases h

theorem ofExcept_eq_ok_iff {result : Except Cause α} {a : α} :
    ofExcept result world = .ok a after ↔ result = .ok a ∧ after = world := by
  cases result with
  | ok b => simp [ofExcept, pure, EStateM.pure, eq_comm]
  | error cause => simp [ofExcept, fail]

theorem catchReturn_eq_ok_iff {action : Eval Value} {v : Value} :
    catchReturn action world = .ok v after ↔
      action world = .ok v after ∨ action world = .error (.returned v) after := by
  change EStateM.bind (observe action) _ world = _ ↔ _
  unfold EStateM.bind observe
  cases action world with
  | ok u last => simp [resume, pure, EStateM.pure]
  | error signal last =>
      cases signal with
      | failed failure => simp [resume]
      | returned u => simp [pure, EStateM.pure]
      | exhausted => simp

/-! ## The functions behind handles -/

theorem callableOf_eq_ok {ref : FunctionRef} {callable : Callable}
    (h : world.defs.function? ref = some callable) : callableOf ref world = .ok callable world := by
  unfold callableOf
  simp only [run_get_bind, h]
  rfl

theorem callableOf_eq_error {ref : FunctionRef} (h : world.defs.function? ref = none) :
    callableOf ref world = .error (.failed (.of (.undefinedFunction ref.name))) world := by
  unfold callableOf
  simp only [run_get_bind, h]
  rfl

end LispEngine.Eval
