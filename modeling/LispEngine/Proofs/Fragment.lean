import LispEngine.Proofs.Contents
import LispEngine.Proofs.LambdaLists

/-!
# Fragments of the language

Which literals, loops, lambda lists and operators of the embedding program a compiled form contains,
at any depth.
-/

namespace LispEngine

/-! ## Forms -/

namespace Form

mutual

def leaves : Form → List Value
  | leaf value _ _ => [value]
  | list items _ _ _ => leavesIn items

def leavesIn : List Form → List Value
  | [] => []
  | form :: forms => form.leaves ++ leavesIn forms

end

def mentions (name : String) (form : Form) : Bool :=
  form.leaves.any fun v =>
    match v with
    | .symbol found => Text.sameName found name
    | _ => false

theorem mem_leavesIn {v : Value} {forms : List Form} :
    v ∈ leavesIn forms ↔ ∃ form ∈ forms, v ∈ form.leaves := by
  induction forms with
  | nil => simp [leavesIn]
  | cons form forms ih => simp [leavesIn, ih]

def Holds (P : Value → Prop) (form : Form) : Prop := ∀ v ∈ form.leaves, P v

variable {P : Value → Prop}

theorem holds_list {items : List Form} {literal : Bool} {position : Position}
    {problem : Option String} :
    (list items literal position problem).Holds P ↔ ∀ item ∈ items, item.Holds P := by
  simp only [Holds, leaves, mem_leavesIn]
  constructor
  · exact fun h item hitem v hv => h v ⟨item, hitem, hv⟩
  · rintro h v ⟨item, hitem, hv⟩
    exact h item hitem v hv

theorem holds_leaf {v : Value} {position : Position} {problem : Option String} :
    (leaf v position problem).Holds P ↔ P v := by
  simp [Holds, leaves]

theorem size_pos (form : Form) : 0 < form.size := by
  cases form with
  | leaf value position problem => simp [size]
  | list items literal position problem => simp only [size]; omega

theorem size_le_sizes {form : Form} {forms : List Form} (h : form ∈ forms) :
    form.size ≤ sizes forms := by
  induction h with
  | head forms => simp [sizes]
  | tail other _ ih => simp only [sizes]; omega

theorem sizes_append (front back : List Form) :
    sizes (front ++ back) = sizes front + sizes back := by
  induction front with
  | nil => simp [sizes]
  | cons form front ih => simp only [List.cons_append, sizes, ih]; omega

theorem sizes_insert (place : Nat) (form : Form) (forms : List Form) :
    sizes (forms.take place ++ form :: forms.drop place) = form.size + sizes forms := by
  have hsplit := sizes_append (forms.take place) (forms.drop place)
  rw [List.take_append_drop] at hsplit
  rw [sizes_append, sizes]
  omega

mutual

theorem toValue_holds {V : Value → Prop} (hV : Inherited V) (form : Form) (h : form.Holds V) :
    V form.toValue :=
  match form with
  | leaf _ _ _ => holds_leaf.mp h
  | list items _ _ _ => hV.list (toValues_holds hV items (holds_list.mp h))

theorem toValues_holds {V : Value → Prop} (hV : Inherited V) (forms : List Form)
    (h : ∀ form ∈ forms, form.Holds V) : ∀ v ∈ toValues forms, V v :=
  match forms with
  | [] => by simp [toValues]
  | form :: forms =>
      List.forall_mem_cons.mpr ⟨toValue_holds hV form (h form (by simp)),
        toValues_holds hV forms fun f hf => h f (by simp [hf])⟩

end

end Form

/-! ## Nodes -/

structure Fragment where
  value : Value → Prop
  loops : Prop
  host : HostAction → Prop
  /-- Whether nodes other than constants may lack a position. -/
  unplaced : Prop
  /-- Whether functions are built from accepted lambda lists only. -/
  accepted : Prop := False

def FormOf.Obeys (F : Fragment) : BuiltIn → Prop
  | .quote v => F.value v
  | .whileLoop _ _ => F.loops
  | .lambda parts => F.accepted → parts.spec.Accepted
  | .defun _ parts => F.accepted → parts.spec.Accepted
  | _ => True

/-- A code keeps to a fragment, the nodes inside it aside. The parameters of forms are set. -/
def CodeOf.Obeys (F : Fragment) : Code → Prop
  | .literal v => F.value v
  | .form slot => ∃ form, slot.content = some form ∧ form.Obeys F
  | .host _ action => F.host action
  | _ => True

inductive Node.Obeys (F : Fragment) : Node → Prop where
  | intro {node : Node} (own : node.code.Obeys F)
      (placed : F.unplaced ∨ node.position.isSome = true ∨ node.constant?.isSome = true)
      (inner : ∀ child ∈ node.code.children, Obeys F child) : Obeys F node

namespace Node.Obeys

variable {F : Fragment} {node : Node}

theorem own (h : node.Obeys F) : node.code.Obeys F := by
  cases h with
  | intro own placed inner => exact own

theorem placed (h : node.Obeys F) (hcode : node.constant? = none) :
    F.unplaced ∨ node.position.isSome = true := by
  cases h with
  | intro own placed inner =>
      refine placed.imp_right fun hplaced => hplaced.resolve_right ?_
      rw [hcode]
      exact Bool.false_ne_true

theorem inner (h : node.Obeys F) : ∀ child ∈ node.code.children, child.Obeys F := by
  cases h with
  | intro own placed inner => exact inner

theorem form {parameters : BuiltIn} (h : node.Obeys F) (hcode : node.code = .ofForm parameters) :
    parameters.Obeys F := by
  have hown := h.own
  rw [hcode] at hown
  obtain ⟨found, hfound, hobeys⟩ := hown
  obtain rfl := Option.some.inj hfound
  exact hobeys

theorem slot_ne_empty (h : node.Obeys F) : node.code ≠ .form .empty := by
  intro hcode
  have hown := h.own
  rw [hcode] at hown
  obtain ⟨found, hfound, -⟩ := hown
  cases hfound

theorem constant {v : Value} (h : node.Obeys F) (hconstant : node.constant? = some v) :
    F.value v := by
  have hown := h.own
  unfold Node.constant? at hconstant
  cases hcode : node.code with
  | literal u =>
      rw [hcode] at hown hconstant
      cases hconstant
      exact hown
  | form slot =>
      rw [hcode] at hown hconstant
      obtain ⟨parameters, hslot, hobeys⟩ := hown
      obtain ⟨found, hfound, hquote⟩ := Option.bind_eq_some_iff.mp hconstant
      obtain rfl := Option.some.inj (hslot.symm.trans hfound)
      cases parameters with
      | quote u =>
          cases hquote
          exact hobeys
      | _ => cases hquote
  | _ =>
      rw [hcode] at hconstant
      cases hconstant

theorem ofValue {v : Value} (h : F.value v) (position : Option Position) :
    (Node.ofValue v position).Obeys F :=
  .intro h (.inr (.inr rfl)) (by simp [Node.ofValue, CodeOf.children])

theorem ofCode {code : Code} {name : String} {position : Position} (hown : code.Obeys F)
    (hinner : ∀ child ∈ code.children, child.Obeys F) :
    (⟨code, name, some position⟩ : Node).Obeys F :=
  .intro hown (.inr (.inl rfl)) hinner

end Node.Obeys

end LispEngine
