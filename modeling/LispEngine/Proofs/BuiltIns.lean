import LispEngine.Interpreter

/-!
# The definitions that every world starts with

Special forms, special expressions and primitive functions stand under their names, and a primitive
function has the lambda list that its parameters declare.
-/

namespace LispEngine

def Callable.Declared : Callable → Prop
  | .native ⟨_, spec, _, .primitive p⟩ =>
      (LambdaList.parse p.parameters : Except Cause (LambdaList Node)) = .ok spec
  | _ => True

def Callable.primitive? : Callable → Option Primitive
  | .native ⟨_, _, _, .primitive p⟩ => some p
  | _ => none

def Entry.form? : Entry → Option SpecialForm
  | ⟨.form (.special form), _⟩ => some form
  | _ => none

def Entry.expression? : Entry → Option SpecialExpression
  | ⟨.expression (.special expression), _⟩ => some expression
  | _ => none

namespace Definitions

variable {defs : Definitions}

def Declared (defs : Definitions) : Prop := ∀ callable ∈ defs.functions, callable.Declared

theorem Declared.install (h : defs.Declared) (name : String) (entry : Entry) :
    (defs.install name entry).Declared := h

theorem Declared.addFunction (h : defs.Declared) {callable : Callable}
    (hcallable : callable.Declared) :
    (defs.addFunction callable).2.Declared := by
  intro other hother
  rcases Array.mem_push.mp hother with hold | rfl
  · exact h other hold
  · exact hcallable

theorem Declared.addPrimitive (h : defs.Declared) (p : Primitive) :
    (defs.addPrimitive p).Declared := by
  unfold Definitions.addPrimitive
  split
  · rename_i spec hparse
    exact (h.addFunction (show Callable.Declared (.native ⟨_, spec, _, .primitive p⟩)
      from hparse)).install
      _ _
  · exact h

theorem initial_declared : initial.Declared := by
  have hempty : empty.Declared := by simp [Declared, empty]
  have hforms : (SpecialForm.all.foldl addSpecialForm empty).Declared :=
    List.foldlRecOn _ _ hempty fun _ h form _ => h.install form.name _
  have hexpressions := List.foldlRecOn SpecialExpression.all addSpecialExpression hforms
    fun _ h expression _ => h.install expression.name _
  exact List.foldlRecOn _ _ hexpressions fun _ h p _ => h.addPrimitive p

/-! ## Names -/

def primitiveNamed? (defs : Definitions) (name : String) : Option Primitive :=
  ((Interpreter.functionNamed? defs name).bind defs.function?).bind Callable.primitive?

/-- Everything that the table starts with, tested at once. -/
theorem initial_table :
    (Primitive.all.all (fun p => initial.primitiveNamed? p.name == some p) &&
      SpecialForm.all.all (fun form => (initial.entry? form.name).bind Entry.form? == some form) &&
      SpecialExpression.all.all fun expression =>
        (initial.entry? expression.name).bind Entry.expression? == some expression) = true := by
  decide +kernel

theorem initial_primitive (p : Primitive) : initial.primitiveNamed? p.name = some p := by
  have htable := initial_table
  simp only [Bool.and_eq_true, List.all_eq_true, beq_iff_eq] at htable
  apply htable.1.1
  cases p with
  | arith op => cases op <;> simp [Primitive.all]
  | compare relation => cases relation <;> simp [Primitive.all]
  | _ => simp [Primitive.all]

private theorem initial_form (form : SpecialForm) :
    (initial.entry? form.name).bind Entry.form? = some form := by
  have htable := initial_table
  simp only [Bool.and_eq_true, List.all_eq_true, beq_iff_eq] at htable
  apply htable.1.2
  cases form <;> simp [SpecialForm.all]

private theorem initial_expression (expression : SpecialExpression) :
    (initial.entry? expression.name).bind Entry.expression? = some expression := by
  have htable := initial_table
  simp only [Bool.and_eq_true, List.all_eq_true, beq_iff_eq] at htable
  apply htable.2
  cases expression <;> simp [SpecialExpression.all]

/-- A name still has the definition that every world starts with. -/
structure BuiltInAt (defs : Definitions) (name : String) : Prop where
  entry : defs.entry? name = initial.entry? name
  function : ∀ ref, Interpreter.functionNamed? initial name = some ref →
    defs.function? ref = initial.function? ref

namespace BuiltInAt

theorem form {form : SpecialForm} (h : defs.BuiltInAt form.name) :
    (defs.entry? form.name).map Entry.kind = some (.form (.special form)) := by
  obtain ⟨entry, hentry, hform⟩ := Option.bind_eq_some_iff.mp (initial_form form)
  rw [h.entry, hentry]
  unfold Entry.form? at hform
  split at hform
  · cases hform
    rfl
  · cases hform

theorem expression {expression : SpecialExpression} (h : defs.BuiltInAt expression.name) :
    (defs.entry? expression.name).map Entry.kind = some (.expression (.special expression)) := by
  obtain ⟨entry, hentry, hexpression⟩ := Option.bind_eq_some_iff.mp (initial_expression expression)
  rw [h.entry, hentry]
  unfold Entry.expression? at hexpression
  split at hexpression
  · cases hexpression
    rfl
  · cases hexpression

theorem primitive {p : Primitive} (h : defs.BuiltInAt p.name) {ref : FunctionRef}
    (href : Interpreter.functionNamed? defs p.name = some ref) :
    ∃ native : Native, defs.function? ref = some (.native native) ∧ native.code = .primitive p ∧
      (LambdaList.parse p.parameters : Except Cause (LambdaList Node)) = .ok native.spec := by
  have hsame : Interpreter.functionNamed? initial p.name = some ref := by
    rw [← href]
    unfold Interpreter.functionNamed?
    rw [h.entry]
  obtain ⟨callable, hcallable, hprimitive⟩ := Option.bind_eq_some_iff.mp (initial_primitive p)
  rw [hsame] at hcallable
  have hdeclared : callable.Declared :=
    initial_declared callable (Array.mem_of_getElem? hcallable)
  unfold Callable.primitive? at hprimitive
  split at hprimitive
  · cases hprimitive
    exact ⟨_, (h.function ref hsame).trans hcallable, rfl, hdeclared⟩
  · cases hprimitive

end BuiltInAt

theorem functionNamed?_eq_some {name : String} {ref : FunctionRef}
    (h : Interpreter.functionNamed? defs name = some ref) :
    (defs.entry? name).map Entry.kind = some (.function ref) := by
  unfold Interpreter.functionNamed? at h
  split at h
  · rename_i hkind
    cases h
    exact hkind
  · cases h

end Definitions

end LispEngine
