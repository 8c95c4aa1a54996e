import LispEngine.Eval.Code

/-!
# What values hold

A caught failure is a value, and it can be put into lists, maps and payloads like any other value.
The properties of values below are those that go from a value to everything inside it. The primitive
functions keep to every such property, and the causes that they raise carry no value.
-/

namespace LispEngine

inductive Value.Part : Value → Value → Prop where
  | item {v : Value} {items : List Value} (member : v ∈ items) : Part v (.list items)
  | entry {key : Key} {v : Value} {entries : List (Key × Value)} (member : (key, v) ∈ entries) :
      Part v (.map entries)
  | payload {v : Value} {id : Nat} {failure : Failure} (carried : failure.payload = some v) :
      Part v (.error id failure)
  | element {id : Nat} {typeName : String} {elements : Elements Value} {index : Nat}
      (inside : index < elements.size) :
      Part (elements.get index) (.object id typeName (some elements))

def Value.isLeaf : Value → Bool
  | list _ | map _ | error _ _ | object _ _ _ => false
  | _ => true

inductive Value.AllFailures (P : Failure → Prop) : Value → Prop where
  | intro {v : Value} (own : ∀ id failure, v = .error id failure → P failure)
      (inner : ∀ u, Part u v → AllFailures P u) : AllFailures P v

/-- A property of values that goes to the values inside, and that only a caught failure can lack
when the values inside have it. -/
structure Inherited (V : Value → Prop) : Prop where
  part {u v : Value} : V v → Value.Part u v → V u
  whole {v : Value} : (∀ id failure, v ≠ .error id failure) → (∀ u, Value.Part u v → V u) → V v

theorem allFailures_inherited (P : Failure → Prop) : Inherited (Value.AllFailures P) where
  part := by
    intro u v hv hpart
    cases hv with
    | intro own inner => exact inner u hpart
  whole := by
    intro v hplain hparts
    exact .intro (fun id failure heq => absurd heq (hplain id failure)) hparts

theorem allFailures_error {P : Failure → Prop} {id : Nat} {failure : Failure} :
    Value.AllFailures P (.error id failure) ↔
      P failure ∧ ∀ v, failure.payload = some v → v.AllFailures P := by
  constructor
  · intro h
    refine ⟨?_, fun v hv => (allFailures_inherited P).part h (.payload hv)⟩
    cases h with
    | intro own inner => exact own id failure rfl
  · rintro ⟨hown, hpayload⟩
    refine .intro ?_ ?_
    · intro id' failure' heq
      cases heq
      exact hown
    · intro u hpart
      cases hpart with
      | payload carried => exact hpayload u carried

theorem inherited_true : Inherited fun _ => True where
  part _ _ := trivial
  whole _ _ := trivial

namespace Inherited

variable {V : Value → Prop} (hV : Inherited V)

include hV

theorem leaf {v : Value} (h : v.isLeaf = true) : V v := by
  refine hV.whole ?_ ?_
  · rintro id failure rfl
    cases h
  · intro u hpart
    cases hpart <;> cases h

theorem list {items : List Value} (hitems : ∀ v ∈ items, V v) : V (.list items) := by
  refine hV.whole (by intros; simp) ?_
  intro u hpart
  cases hpart with
  | item member => exact hitems u member

theorem items {items : List Value} (h : V (.list items)) : ∀ v ∈ items, V v :=
  fun _ hv => hV.part h (.item hv)

end Inherited

/-! ## Primitive functions -/

def CauseOf.isHostOnly {V : Type} : CauseOf V → Bool
  | parametersSet | parametersUnset => true
  | _ => false

/-- A cause that arises when code is evaluated, not when it is compiled, that carries no value and
belongs to the evaluator. -/
structure CauseOf.Plain {V : Type} (cause : CauseOf V) : Prop where
  evaluating : cause.category ≠ .compile
  bare : cause.payload = none
  own : cause.isHostOnly = false

def CauseOf.isArgumentMissing {V : Type} : CauseOf V → Bool
  | argumentMissing _ => true
  | _ => false

structure CauseOf.Regular {V : Type} (cause : CauseOf V) : Prop extends cause.Plain where
  supplied : cause.isArgumentMissing = false

def Plainly {α : Type} (Q : α → Prop) : Except Cause α → Prop
  | .ok a => Q a
  | .error cause => cause.Regular

namespace Plainly

variable {α β : Type} {Q : α → Prop} {R : β → Prop}

theorem bind {m : Except Cause α} {k : α → Except Cause β} (hm : Plainly Q m)
    (hk : ∀ a, Q a → Plainly R (k a)) : Plainly R (m >>= k) := by
  cases m with
  | ok a => exact hk a hm
  | error cause => exact hm

theorem ran {m : Except Cause α} (h : Plainly Q m) : Plainly (fun a => Q a ∧ m = .ok a) m := by
  cases m with
  | ok a => exact ⟨h, rfl⟩
  | error cause => exact h

end Plainly

theorem mismatch_regular (expected : String) (v : Value) :
    (CauseOf.mismatch expected v).Regular :=
  ⟨⟨by simp [CauseOf.mismatch, CauseOf.category], rfl, rfl⟩, rfl⟩

theorem intOperand_plainly (v : Value) : Plainly (fun _ => True) v.intOperand := by
  unfold Value.intOperand
  split
  · trivial
  · exact mismatch_regular _ v

theorem doubleOperand_plainly (v : Value) : Plainly (fun _ => True) v.doubleOperand := by
  unfold Value.doubleOperand
  split
  · trivial
  · trivial
  · split
    · trivial
    · exact mismatch_regular _ _

theorem versionOfText_plainly (text : String) :
    Plainly (fun _ => True) (Value.versionOfText text) := by
  unfold Value.versionOfText
  split
  · trivial
  · exact ⟨⟨by simp [CauseOf.category], rfl, rfl⟩, rfl⟩

theorem versionOperand_plainly (v : Value) : Plainly (fun _ => True) v.versionOperand := by
  unfold Value.versionOperand
  split
  · trivial
  · exact versionOfText_plainly _
  · exact versionOfText_plainly _
  · split
    · split
      · trivial
      · exact ⟨⟨by simp [CauseOf.category], rfl, rfl⟩, rfl⟩
    · exact mismatch_regular _ _

theorem applyInt_plainly (op : ArithOp) (x y : Int64) :
    Plainly (fun _ => True) (op.applyInt x y) := by
  unfold ArithOp.applyInt
  split
  · exact ⟨⟨by simp [CauseOf.category], rfl, rfl⟩, rfl⟩
  · split
    · trivial
    · exact ⟨⟨by simp [CauseOf.category], rfl, rfl⟩, rfl⟩

theorem applyVersion_plainly (op : ArithOp) (x y : Version) :
    Plainly (fun _ => True) (op.applyVersion x y) := by
  cases op with
  | add | sub =>
      simp only [ArithOp.applyVersion]
      split
      · trivial
      · exact ⟨⟨by simp [CauseOf.category], rfl, rfl⟩, rfl⟩
  | mul | div | rem => exact ⟨⟨by simp [CauseOf.category], rfl, rfl⟩, rfl⟩

theorem promoteAll_plainly (vs : List Value) (promotion : Promotion) :
    Plainly (fun _ => True) (promotion.promoteAll vs) := by
  induction vs generalizing promotion with
  | nil => trivial
  | cons v vs ih =>
      refine Plainly.bind (Q := fun _ => True) ?_ fun next _ => ih next.1
      unfold Promotion.promote
      split
      · trivial
      · exact mismatch_regular _ v

section Numbers

variable {V : Value → Prop} (hV : Inherited V)

include hV

theorem combine_plainly (promotion : Promotion) (op : ArithOp) (a b : Value) :
    Plainly V (promotion.combine op a b) := by
  unfold Promotion.combine
  cases promotion.workKind with
  | byte | short | int | long =>
      refine (intOperand_plainly a).bind fun x _ => (intOperand_plainly b).bind fun y _ => ?_
      exact (applyInt_plainly op x y).bind fun z _ => hV.leaf rfl
  | float | double =>
      refine (doubleOperand_plainly a).bind fun x _ => (doubleOperand_plainly b).bind fun y _ => ?_
      exact hV.leaf rfl
  | version =>
      refine (versionOperand_plainly a).bind fun x _ =>
        (versionOperand_plainly b).bind fun y _ => ?_
      exact (applyVersion_plainly op x y).bind fun z _ => hV.leaf rfl

private theorem finish_inherited (promotion : Promotion) {v : Value} (hv : V v) :
    V (promotion.finish v) := by
  unfold Promotion.finish
  split
  · exact hV.leaf rfl
  · exact hV.leaf rfl
  · exact hV.leaf rfl
  · exact hV.leaf rfl
  · exact hv

theorem combineAll_plainly (promotion : Promotion) (op : ArithOp) (vs : List Value) {acc : Value}
    (hacc : V acc) : Plainly V (combineAll promotion op acc vs) := by
  induction vs generalizing acc with
  | nil => exact hacc
  | cons v vs ih => exact (combine_plainly hV promotion op acc v).bind fun next hnext => ih hnext

theorem fold_plainly (op : ArithOp) {operands : List Value} (h : ∀ v ∈ operands, V v) :
    Plainly V (fold op operands) := by
  refine (promoteAll_plainly operands .start).bind fun promotion _ => ?_
  split
  · exact finish_inherited hV _ (hV.leaf rfl)
  · exact ⟨⟨by simp [CauseOf.category], rfl, rfl⟩, rfl⟩
  · split
    · exact ⟨⟨by simp [CauseOf.category], rfl, rfl⟩, rfl⟩
    · exact (combine_plainly hV _ _ _ _).bind fun v hv => finish_inherited hV _ hv
    · exact (combine_plainly hV _ _ _ _).bind fun v hv => finish_inherited hV _ hv
    · exact finish_inherited hV _ (h _ (by simp))
  · exact (combineAll_plainly hV _ _ _ (h _ (by simp))).bind fun v hv =>
      finish_inherited hV _ hv

end Numbers

theorem compare_plainly (promotion : Promotion) (a b : Value) :
    Plainly (fun _ => True) (promotion.compare a b) := by
  unfold Promotion.compare
  cases promotion.workKind with
  | byte | short | int | long =>
      exact (intOperand_plainly a).bind fun x _ => (intOperand_plainly b).bind fun y _ => trivial
  | float | double =>
      exact (doubleOperand_plainly a).bind fun x _ =>
        (doubleOperand_plainly b).bind fun y _ => trivial
  | version =>
      exact (versionOperand_plainly a).bind fun x _ =>
        (versionOperand_plainly b).bind fun y _ => trivial

theorem compareAll_plainly (promotion : Promotion) (relation : Relation) (vs : List Value) :
    Plainly (fun _ => True) (compareAll promotion relation vs) := by
  fun_induction compareAll promotion relation vs with
  | case1 a b rest ih =>
      refine (compare_plainly promotion a b).bind fun order _ => ?_
      cases order with
      | none => trivial
      | some order =>
          simp only
          split
          · exact ih
          · trivial
  | case2 => trivial

private theorem spread_inherited {V : Value → Prop} (hV : Inherited V) {vs : List Value}
    (h : ∀ v ∈ vs, V v) : ∀ v ∈ spread vs, V v := by
  fun_induction spread vs with
  | case1 => exact h
  | case2 items => exact hV.items (h _ (by simp))
  | case3 v => exact h
  | case4 v vs _ _ ih =>
      intro u hu
      rcases List.mem_cons.mp hu with rfl | hu
      · exact h u (by simp)
      · exact ih (fun x hx => h x (by simp [hx])) u hu

theorem ofFailure_plainly {V : Value → Prop} {read : Failure → Value} {v : Value}
    (hread : ∀ id failure, V (.error id failure) → V (read failure)) (hv : V v) :
    Plainly V (Primitive.ofFailure read v) := by
  unfold Primitive.ofFailure
  split
  · exact hread _ _ hv
  · exact mismatch_regular _ _

def Primitive.reads : Primitive → Nat
  | not | version | errorMessage | errorKind | errorPayload => 1
  | equal => 2
  | _ => 0

/-- A primitive function gives a value that inherits from its arguments, or fails with a plain
cause. That a value is missing is the cause only if there are too few. -/
theorem primitive_plainly {V : Value → Prop} (hV : Inherited V) (primitive : Primitive)
    {vs : List Value} (h : ∀ v ∈ vs, V v) :
    Plainly V (primitive.run vs) ∨ vs.length < primitive.reads ∧
      primitive.run vs = .error (.argumentMissing primitive.name) := by
  unfold Primitive.run
  split
  · exact .inl (fold_plainly hV _ (spread_inherited hV h))
  · refine .inl (Plainly.bind (Q := fun _ => True) ?_ fun _ _ => hV.leaf rfl)
    exact (promoteAll_plainly _ _).bind fun _ _ => compareAll_plainly _ _ _
  · exact .inl (hV.list (spread_inherited hV h))
  · exact .inl (hV.leaf rfl)
  · exact .inl (hV.leaf rfl)
  · left
    unfold Primitive.versionOf
    split
    · exact (versionOfText_plainly _).bind fun _ _ => hV.leaf rfl
    · exact hV.leaf rfl
    · exact mismatch_regular _ _
  · exact .inl (ofFailure_plainly (fun _ _ _ => hV.leaf rfl) (h _ (by simp)))
  · exact .inl (ofFailure_plainly (fun _ _ _ => hV.leaf rfl) (h _ (by simp)))
  · refine .inl (ofFailure_plainly (fun id failure hv => ?_) (h _ (by simp)))
    cases hpayload : failure.payload with
    | none => exact hV.leaf rfl
    | some u => exact hV.part hv (.payload hpayload)
  · right
    refine ⟨?_, rfl⟩
    rcases vs with _ | ⟨v, _ | ⟨w, vs⟩⟩ <;> cases primitive <;> simp_all [Primitive.reads]

end LispEngine
