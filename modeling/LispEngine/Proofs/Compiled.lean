import LispEngine.Interpreter
import LispEngine.Proofs.Binding
import LispEngine.Proofs.Compilation

/-!
# What the code of forms contains

Compiling a form goes through the forms inside it and through the calls that the steps of pipelines
stand for. It ends with a node or a failure, and what the node contains comes from the leaves of the
form and from the table of operators.
-/

namespace LispEngine

open Compile

/-! ## Steps of a pipeline -/

theorem pipeStep_size {defs : Definitions} {step call : Form} (h : pipeStep defs step = .ok call) :
    call.size ≤ step.size + 2 := by
  unfold pipeStep at h
  split at h
  · cases h
    simp [Form.ofItems, Form.ofSymbol, Form.size, Form.sizes]
  · rename_i head arguments position problem
    cases h
    simp only [Form.ofItems, Form.size, Form.sizes, Form.sizes_insert, Form.ofSymbol]
    omega
  · cases h

theorem pipeStep_holds {Q : Value → Prop} {defs : Definitions} {step call : Form}
    (hvalue : Q (.symbol pipeVariable)) (hstep : step.Holds Q)
    (h : pipeStep defs step = .ok call) : call.Holds Q := by
  unfold pipeStep at h
  split at h
  · cases h
    rw [Form.ofItems, Form.holds_list]
    simpa [Form.ofSymbol, Form.holds_leaf, hvalue] using hstep
  · rename_i head arguments position problem
    cases h
    have hitems := Form.holds_list.mp hstep
    rw [Form.ofItems, Form.holds_list]
    intro item hitem
    simp only [List.mem_cons, List.mem_append] at hitem
    rcases hitem with rfl | htaken | rfl | hdropped
    · exact hitems item (by simp)
    · exact hitems item (by simp [List.mem_of_mem_take htaken])
    · exact Form.holds_leaf.mpr hvalue
    · exact hitems item (by simp [List.mem_of_mem_drop hdropped])
  · cases h

/-! ## Forms -/

/-- What a table entry contributes to the code of the forms that it stands at the head of. The loop
is known under one name only. -/
def EntryKind.Obeys (F : Fragment) (E : Failure → Prop) (name : String) : EntryKind → Prop
  | .form (.special operator) => operator = .whileLoop → F.loops ∨ name = SpecialForm.whileLoop.name
  | .form (.host accept) => ∀ forms position,
      (∀ action, accept forms position = .ok action → F.host action) ∧
        ∀ failure, accept forms position = .error failure → E failure
  | .expression (.special _) => True
  | .expression (.host accept) => ∀ count position,
      (∀ action, accept count position = .ok action → F.host action) ∧
        ∀ failure, accept count position = .error failure → E failure
  | .function _ => True

def Definitions.Obeys (F : Fragment) (E : Failure → Prop) (defs : Definitions) : Prop :=
  ∀ pair ∈ defs.table, pair.2.kind.Obeys F E pair.1

theorem Definitions.Obeys.entry {F : Fragment} {E : Failure → Prop} {defs : Definitions}
    (h : defs.Obeys F E) {name : String} {kind : EntryKind}
    (hentry : (defs.entry? name).map Entry.kind = some kind) :
    kind.Obeys F E (Text.canonical name) := by
  obtain ⟨entry, hfound, rfl⟩ := Option.map_eq_some_iff.mp hentry
  exact h _ (mem_of_lookup hfound)

theorem tail_size {step : Form} {forms : List Form} (h : step ∈ forms.tail) :
    step.size + 1 ≤ Form.sizes forms := by
  cases forms with
  | nil => cases h
  | cons first rest =>
      have hfirst := first.size_pos
      have hstep := Form.size_le_sizes h
      simp only [Form.sizes, List.tail_cons] at hstep ⊢
      omega

/-- A sort of forms that compiling goes through and makes code of a fragment of. -/
structure Compilable (F : Fragment) (E : Failure → Prop) (defs : Definitions)
    (B : Form → Prop) : Prop where
  nil : F.value .nil
  data {form : Form} : B form → F.value form.toValue
  item {form : Form} {items : List Form} : B form → form.items? = some items →
    ∀ item ∈ items, B item
  step {form call : Form} : B form → pipeStep defs form = .ok call → B call
  refusal {form : Form} {cause : Cause} : B form → cause.Refusal →
    E (.located form.position cause)
  loop {name : String} {position : Position} {problem : Option String} :
    B (.leaf (.symbol name) position problem) →
      Text.canonical name = SpecialForm.whileLoop.name → F.loops

namespace Compilable

variable {F : Fragment} {E : Failure → Prop} {defs : Definitions} {B : Form → Prop}
  (hB : Compilable F E defs B) (hdefs : defs.Obeys F E)

include hB

theorem compiles {height : Nat} {inner : FormCompiler}
    (h : ∀ form, B form → form.size ≤ height → Gives E (Node.Obeys F) (inner form)) :
    Compiles (fun form => B form ∧ form.size ≤ height) E (Node.Obeys F) inner where
  node hform := h _ hform.1 hform.2
  item := by
    intro form items hform hitems item hitem
    refine ⟨hB.item hform.1 hitems item hitem, ?_⟩
    cases form with
    | leaf v position problem => cases hitems
    | list found literal position problem =>
        obtain rfl := Option.some.inj hitems
        have hsize := Form.size_le_sizes hitem
        have hwhole := hform.2
        simp only [Form.size] at hwhole
        omega
  refusal hform := hB.refusal hform.1

include hdefs

theorem compileOperator_gives {height : Nat} {inner : FormCompiler}
    (h : ∀ form, B form → form.size ≤ height → Gives E (Node.Obeys F) (inner form))
    {name : String} (hloop : Text.canonical name = SpecialForm.whileLoop.name → F.loops)
    {arguments : List Form} (harguments : ∀ form ∈ arguments, B form)
    (hsizes : Form.sizes arguments + 1 ≤ height) {position : Position}
    (hat : ∀ cause : Cause, cause.Refusal → E (.located position cause)) :
    Gives E (Compiles.BuildsCode F (Node.Obeys F))
      (compileOperator inner defs name arguments position) := by
  have hc := hB.compiles h
  have hforms : ∀ form ∈ arguments, B form ∧ form.size ≤ height := by
    intro form hform
    have hsize := Form.size_le_sizes hform
    exact ⟨harguments form hform, by omega⟩
  have hnodes := hc.all_gives hforms
  unfold compileOperator
  split
  · rename_i form hentry
    refine gives_bind (hc.special_gives hforms hat form hB.nil (fun f hf => hB.data hf.1) ?_ ?_)
      fun _ hform => Compiles.setParameters_gives hform
    · intro step hstep call hcall
      have hsize := pipeStep_size hcall
      have hroom := tail_size hstep
      exact ⟨hB.step (harguments step (List.mem_of_mem_tail hstep)) hcall, by omega⟩
    · intro hwhile
      exact (hdefs.entry hentry hwhile).elim id hloop
  · rename_i accept hentry
    obtain ⟨haction, hfailure⟩ := hdefs.entry hentry arguments position
    refine gives_bind (gives_ofExcept haction hfailure) ?_
    intro action hhost
    exact gives_pure ⟨hhost, by simp [CodeOf.children]⟩
  · rename_i expression hentry
    refine gives_bind hnodes ?_
    intro nodes hnodes
    exact gives_bind (Compiles.expression_gives hat expression hnodes)
      fun _ hform => Compiles.setParameters_gives hform
  · rename_i accept hentry
    refine gives_bind hnodes ?_
    intro nodes hnodes
    obtain ⟨haction, hfailure⟩ := hdefs.entry hentry nodes.length position
    refine gives_bind (gives_ofExcept haction hfailure) ?_
    intro action hhost
    exact gives_pure ⟨hhost, hnodes⟩
  · exact hc.namedCall_gives hforms
  · exact hc.namedCall_gives hforms

theorem compileCall_gives {height : Nat} {inner : FormCompiler}
    (h : ∀ form, B form → form.size ≤ height → Gives E (Node.Obeys F) (inner form))
    {head : Form} {arguments : List Form} (hhead : B head)
    (harguments : ∀ form ∈ arguments, B form)
    (hsizes : Form.sizes (head :: arguments) ≤ height) {position : Position}
    (hat : ∀ cause : Cause, cause.Refusal → E (.located position cause)) :
    Gives E (Node.Obeys F) (compileCall inner defs head arguments position) := by
  have hpositive := head.size_pos
  simp only [Form.sizes] at hsizes
  unfold compileCall
  split
  · refine gives_bind (Q := Compiles.BuildsCode F (Node.Obeys F))
      ((hB.compiles h).computedCall_gives ?_ ⟨hhead, by omega⟩) ?_
    · intro form hform
      have hsize := Form.size_le_sizes hform
      exact ⟨harguments form hform, by omega⟩
    · intro code hcode
      exact gives_pure (Node.Obeys.ofCode hcode.1 hcode.2)
  · refine gives_bind (hB.compileOperator_gives hdefs h (hB.loop hhead) harguments
      (by omega) hat) ?_
    intro code hcode
    exact gives_pure (Node.Obeys.ofCode hcode.1 hcode.2)
  · exact gives_refuse (hB.refusal hhead ⟨rfl, rfl, rfl⟩)

theorem compileStep_gives {height : Nat} {inner : FormCompiler}
    (h : ∀ form, B form → form.size ≤ height → Gives E (Node.Obeys F) (inner form))
    {form : Form} (hform : B form) (hsize : form.size ≤ height + 1) :
    Gives E (Node.Obeys F) (compileStep inner defs form) := by
  have hat : ∀ cause : Cause, cause.Refusal → E (.located form.position cause) :=
    fun _ => hB.refusal hform
  unfold compileStep
  split
  · exact gives_refuse (hat _ ⟨rfl, rfl, rfl⟩)
  · split
    · exact gives_pure (Node.Obeys.ofCode trivial (by simp [CodeOf.children]))
    · exact gives_pure (Node.Obeys.ofValue (hB.data hform) _)
    · exact gives_pure (Node.Obeys.ofCode (hB.data hform) (by simp [CodeOf.children]))
    · exact gives_pure (Node.Obeys.ofValue (hB.data hform) _)
    · rename_i head arguments position problem _
      have hitem := hB.item hform rfl
      simp only [Form.size] at hsize
      exact hB.compileCall_gives hdefs h (hitem head (by simp))
        (fun f hf => hitem f (by simp [hf])) (by omega) hat

theorem compileWithin_gives {height : Nat} {form : Form} (hform : B form)
    (hsize : form.size ≤ height) : Gives E (Node.Obeys F) (compileWithin defs height form) := by
  -- every inner form is smaller, also where a step of a pipeline is rewritten first
  induction height generalizing form with
  | zero =>
      have hpositive := form.size_pos
      omega
  | succ height ih =>
      exact hB.compileStep_gives hdefs (fun f hf hfits => ih hf hfits) hform hsize

theorem compileForm_gives {form : Form} (hform : B form) :
    Gives E (Node.Obeys F) (compileForm defs form) :=
  hB.compileWithin_gives hdefs hform (Nat.le_refl _)

theorem compiles_form : Compiles B E (Node.Obeys F) (compileForm defs) where
  node hform := hB.compileForm_gives hdefs hform
  item := hB.item
  refusal := hB.refusal

theorem compileChecked_gives {form : Form} (hform : B form)
    (hproblem : ∀ text position, form.firstProblem = some (text, position) →
      E (.located position (.parseProblem text))) :
    Gives E (Node.Obeys F) (compileChecked defs form) := by
  unfold compileChecked
  split
  · rename_i text position hfound
    exact gives_refuse (hproblem text position hfound)
  · exact hB.compileForm_gives hdefs hform

end Compilable

theorem Interpreter.compile_of_gives {E : Failure → Prop} {Q : Node → Prop} {form : Form}
    {world : World} (h : Gives E Q (compileChecked world.defs form)) :
    (∃ node after, compile form world = .ok node after ∧ Q node) ∨
      ∃ failure after, compile form world = .error (.failed failure) after ∧ E failure := by
  have hends := h world.sites.size
  simp only [compile, compiling]
  cases hrun : compileChecked world.defs form world.sites.size with
  | ok node count =>
      rw [hrun] at hends
      exact .inl ⟨node, world.growSites count, rfl, hends⟩
  | error signal count =>
      rw [hrun] at hends
      cases signal with
      | failed failure => exact .inr ⟨failure, world.growSites count, rfl, hends⟩
      | returned v => exact hends.elim
      | exhausted => exact hends.elim

/-! ## Sorts of forms by their leaves -/

def Fragment.Leaf (F : Fragment) (v : Value) : Prop :=
  F.value v ∧
    ∀ name, v = .symbol name → Text.canonical name = SpecialForm.whileLoop.name → F.loops

theorem compilable_of_leaves {F : Fragment} (hV : Inherited F.value) (defs : Definitions) :
    Compilable F (fun _ => True) defs (Form.Holds F.Leaf) where
  nil := hV.leaf rfl
  data := by
    intro form hform
    exact form.toValue_holds hV fun v hv => (hform v hv).1
  item := by
    intro form items hform hitems
    cases form with
    | leaf v position problem => cases hitems
    | list found literal position problem =>
        obtain rfl := Option.some.inj hitems
        exact Form.holds_list.mp hform
  step := by
    intro form call hform hcall
    refine pipeStep_holds ⟨hV.leaf rfl, ?_⟩ hform hcall
    intro name hname
    cases hname
    intro hcanonical
    exact absurd hcanonical (by decide +kernel)
  refusal _ _ := trivial
  loop := by
    intro name position problem hform hname
    exact (Form.holds_leaf.mp hform).2 name rfl hname

end LispEngine
