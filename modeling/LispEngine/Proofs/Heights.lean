import LispEngine.Proofs.LateBinding
import LispEngine.Proofs.Runs

/-!
# Heights

The number that bounds how deep compiling goes makes no difference once it is at least the size of
the form. So a form has the same code by itself as inside another form, and the position of a node
is that of its form.
-/

namespace LispEngine

open Compile

namespace SameOn

variable {P : Form → Prop} {inner other : FormCompiler} (hs : SameOn P inner other)
  {defs : Definitions}

include hs

private theorem pipeSteps_eq {steps : List Form}
    (h : ∀ step ∈ steps, ∀ call, pipeStep defs step = .ok call → P call) :
    Special.pipeSteps inner defs steps = Special.pipeSteps other defs steps := by
  induction steps with
  | nil => rfl
  | cons step steps ih =>
      have hrest := ih fun f hf => h f (by simp [hf])
      cases hstep : pipeStep defs step with
      | error failure =>
          unfold Special.pipeSteps
          rw [hstep]
          rfl
      | ok call =>
          have hcall := hs.node (h step (by simp) call hstep)
          have hrun (compiler : FormCompiler) :
            Special.pipeSteps compiler defs (step :: steps) = (do
              let node ← compiler call
              let nodes ← Special.pipeSteps compiler defs steps
              return node :: nodes) := by
            rw [Special.pipeSteps, hstep]
            rfl
          rw [hrun inner, hrun other, hcall, hrest]

variable {arguments : List Form} (h : ∀ form ∈ arguments, P form)
  (hsteps : ∀ step ∈ arguments.tail, ∀ call, pipeStep defs step = .ok call → P call)

include h hsteps

private theorem pipe_eq (position : Position) :
    Special.pipe inner defs arguments position = Special.pipe other defs arguments position := by
  cases arguments with
  | nil => rfl
  | cons first steps =>
      have hfirst := hs.node (h first (by simp))
      have hrest : Special.pipeSteps inner defs steps = Special.pipeSteps other defs steps :=
        hs.pipeSteps_eq hsteps
      simp only [Special.pipe, hfirst, hrest]

theorem compileOperator_eq (name : String) (position : Position) :
    compileOperator inner defs name arguments position =
      compileOperator other defs name arguments position := by
  have hall := hs.all_eq h
  have hspecial (form : SpecialForm) : Special.compile inner defs form arguments position =
      Special.compile other defs form arguments position := by
    by_cases hform : form = .pipe
    · subst hform
      exact hs.pipe_eq h hsteps position
    · exact hs.special_eq h defs defs hform position
  simp only [compileOperator, hspecial, hall, compileNamedCall]

theorem compileCall_eq {head : Form} (hhead : P head) (position : Position) :
    compileCall inner defs head arguments position =
      compileCall other defs head arguments position := by
  cases head with
  | list items literal place problem =>
      simp only [compileCall, compileComputedCall, hs.node hhead, hs.all_eq h]
  | leaf value place problem =>
      cases value with
      | symbol name => simp only [compileCall, hs.compileOperator_eq h hsteps name position]
      | _ => rfl

end SameOn

/-- Compiling a form asks for the code of smaller forms only, also where a step of a pipeline is
rewritten first. -/
theorem compileStep_eq_of_size {defs : Definitions} {inner other : FormCompiler} {height : Nat}
    (hs : SameOn (fun form => form.size ≤ height) inner other) {form : Form}
    (hsize : form.size ≤ height + 1) :
    compileStep inner defs form = compileStep other defs form := by
  cases hproblem : form.problem with
  | some text => simp only [compileStep, hproblem]
  | none =>
      cases form with
      | leaf value position problem => cases value <;> simp only [compileStep, hproblem]
      | list items literal position problem =>
          rcases items with _ | ⟨head, arguments⟩
          · cases literal <;> simp only [compileStep, hproblem]
          · simp only [Form.size, Form.sizes] at hsize
            have hpositive := head.size_pos
            have hhead : head.size ≤ height := by omega
            have harguments : ∀ form ∈ arguments, form.size ≤ height := by
              intro form hform
              have := Form.size_le_sizes hform
              omega
            have hsteps : ∀ step ∈ arguments.tail, ∀ call, pipeStep defs step = .ok call →
                call.size ≤ height := by
              intro step hstep call hcall
              have := pipeStep_size hcall
              have := tail_size hstep
              omega
            have hcall := hs.compileCall_eq harguments hsteps hhead position
            cases literal <;> simp only [compileStep, hproblem, hcall]

theorem Form.size_le_of_items {form item : Form} {items : List Form} {height : Nat}
    (hform : form.size ≤ height) (hitems : form.items? = some items) (hitem : item ∈ items) :
    item.size ≤ height := by
  cases form with
  | leaf value position problem => cases hitems
  | list found literal position problem =>
      obtain rfl := Option.some.inj hitems
      have := Form.size_le_sizes hitem
      simp only [Form.size] at hform
      omega

private theorem compileWithin_eq_of_size (defs : Definitions) {form : Form} {height taller : Nat}
    (hsize : form.size ≤ height) (h : height ≤ taller) :
    compileWithin defs height form = compileWithin defs taller form := by
  induction height generalizing form taller with
  | zero =>
      have := form.size_pos
      omega
  | succ height ih =>
      obtain ⟨more, rfl⟩ : ∃ more, taller = more + 1 := ⟨taller - 1, by omega⟩
      apply compileStep_eq_of_size _ hsize
      exact ⟨fun hform => ih hform (Nat.le_of_succ_le_succ h),
        fun hform hitems _ hitem => Form.size_le_of_items hform hitems hitem⟩

theorem compileForm_eq (defs : Definitions) (form : Form) :
    compileForm defs form = compileStep (compileForm defs) defs form := by
  obtain ⟨height, hheight⟩ : ∃ height, form.size = height + 1 :=
    ⟨form.size - 1, by have := form.size_pos; omega⟩
  have hstep : compileForm defs form = compileStep (compileWithin defs height) defs form := by
    rw [compileForm, hheight, compileWithin]
  rw [hstep]
  refine compileStep_eq_of_size ⟨?_, ?_⟩ (Nat.le_of_eq hheight)
  · intro inside hsize
    exact (compileWithin_eq_of_size defs (Nat.le_refl _) hsize).symm
  · intro inside items hsize hitems item hitem
    exact Form.size_le_of_items hsize hitems hitem

theorem compileForm_call {defs : Definitions} {name : String} {arguments : List Form}
    {position : Position} {code : Code} {count last : Nat}
    (h : compileOperator (compileForm defs) defs name arguments position count = .ok code last)
    (head : Position) :
    compileForm defs (.ofItems (.ofSymbol name head :: arguments) position) count =
      .ok ⟨code, name, some position⟩ last := by
  rw [compileForm_eq]
  exact Eval.bind_eq_ok_iff.mpr ⟨code, last, h, rfl⟩

/-! ## Positions -/

theorem position_of_compileCall {inner : FormCompiler} {defs : Definitions} {head : Form}
    {arguments : List Form} {position : Position} {count last : Nat} {node : Node}
    (h : compileCall inner defs head arguments position count = .ok node last) :
    node.position = some position := by
  cases head with
  | list items literal place problem =>
      obtain ⟨code, middle, -, hpure⟩ := Eval.bind_eq_ok_iff.mp h
      cases hpure
      rfl
  | leaf value place problem =>
      cases value with
      | symbol name =>
          obtain ⟨code, middle, -, hpure⟩ := Eval.bind_eq_ok_iff.mp h
          cases hpure
          rfl
      | _ => cases h

private theorem position_of_compileForm {defs : Definitions} {form : Form} {count last : Nat}
    {node : Node} (h : compileForm defs form count = .ok node last) :
    node.position = some form.position := by
  rw [compileForm_eq] at h
  cases hproblem : form.problem with
  | some text =>
      simp only [compileStep, hproblem] at h
      cases h
  | none =>
      cases form with
      | leaf value position problem =>
          cases value <;> simp only [compileStep, hproblem] at h <;> cases h <;> rfl
      | list items literal position problem =>
          rcases items with _ | ⟨head, arguments⟩
          · cases literal <;> simp only [compileStep, hproblem] at h <;> cases h <;> rfl
          · cases literal with
            | true =>
                simp only [compileStep, hproblem] at h
                cases h
                rfl
            | false =>
                simp only [compileStep, hproblem] at h
                exact position_of_compileCall h

theorem placed_of_all_compileForm {defs : Definitions} {forms : List Form} {count last : Nat}
    {nodes : List Node} (h : all (compileForm defs) forms count = .ok nodes last) :
    ∀ node ∈ nodes, node.position.isSome = true := by
  induction forms generalizing count nodes with
  | nil =>
      cases h
      simp
  | cons form forms ih =>
      obtain ⟨first, middle, hfirst, hrest⟩ := Eval.bind_eq_ok_iff.mp h
      obtain ⟨others, _, hothers, hpure⟩ := Eval.bind_eq_ok_iff.mp hrest
      cases hpure
      refine List.forall_mem_cons.mpr ⟨?_, ih hothers⟩
      rw [position_of_compileForm hfirst]
      rfl

end LispEngine
