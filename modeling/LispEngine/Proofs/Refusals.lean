import LispEngine.Proofs.Termination

/-!
# Refused forms

A form that cannot be compiled is refused with a failure of the compiler's own sort, which stands at
the form or at a form inside it. A problem of the reader anywhere in a form is such a failure, and
the first of them in the order of reading is reported.
-/

namespace LispEngine

namespace Form

mutual

def preorder : Form → List Form
  | leaf value position problem => [leaf value position problem]
  | list items literal position problem =>
      list items literal position problem :: preorderIn items

def preorderIn : List Form → List Form
  | [] => []
  | form :: forms => form.preorder ++ preorderIn forms

end

theorem mem_preorderIn {form : Form} {forms : List Form} :
    form ∈ preorderIn forms ↔ ∃ item ∈ forms, form ∈ item.preorder := by
  induction forms with
  | nil => simp [preorderIn]
  | cons first forms ih => simp [preorderIn, ih]

theorem self_mem_preorder (form : Form) : form ∈ form.preorder := by
  cases form with
  | leaf value position problem => simp [preorder]
  | list items literal position problem => simp [preorder]

mutual

theorem firstProblem_eq (form : Form) :
    form.firstProblem =
      form.preorder.findSome? fun found => found.problem.map (·, found.position) :=
  match form with
  | leaf _ _ _ => by simp [firstProblem, preorder, problem, position]
  | list items _ _ none => by
      simpa [firstProblem, preorder, problem] using firstProblemIn_eq items
  | list _ _ _ (some _) => by simp [firstProblem, preorder, problem, position]

theorem firstProblemIn_eq (forms : List Form) :
    firstProblemIn forms =
      (preorderIn forms).findSome? fun found => found.problem.map (·, found.position) :=
  match forms with
  | [] => rfl
  | form :: forms => by
      rw [firstProblemIn, preorderIn, List.findSome?_append, ← firstProblem_eq form,
        ← firstProblemIn_eq forms]
      cases form.firstProblem with
      | none => rfl
      | some found => rfl

end

theorem firstProblem_eq_none {tree : Form} :
    tree.firstProblem = none ↔ ∀ form ∈ tree.preorder, form.problem = none := by
  simp only [firstProblem_eq, List.findSome?_eq_none_iff, Option.map_eq_none_iff]

theorem firstProblem_of_first {tree form : Form} {before rest : List Form} {text : String}
    (htree : tree.preorder = before ++ form :: rest)
    (hbefore : ∀ earlier ∈ before, earlier.problem = none) (hform : form.problem = some text) :
    tree.firstProblem = some (text, form.position) := by
  have hnone : before.findSome? (fun found => found.problem.map (·, found.position)) = none := by
    rw [List.findSome?_eq_none_iff]
    intro earlier hearlier
    rw [hbefore earlier hearlier, Option.map_none]
  rw [firstProblem_eq, htree, List.findSome?_append, hnone, Option.none_or,
    List.findSome?_cons, hform, Option.map_some]

structure RefusedBy (tree : Form) (failure : Failure) : Prop where
  category : failure.cause.category = .compile
  kind : failure.kind = .compile
  payload : failure.payload = none
  trace : failure.trace = none
  place : ∃ form ∈ tree.preorder, failure.position = some form.position
  problem (before rest : List Form) {form : Form} {text : String} :
    tree.preorder = before ++ form :: rest → (∀ earlier ∈ before, earlier.problem = none) →
      form.problem = some text → failure.message = text ∧ failure.position = some form.position

def Covers (tree : Form) (position : Position) : Prop :=
  ∃ form ∈ tree.preorder, form.position = position

def Within (tree form : Form) : Prop := ∀ found ∈ form.preorder, tree.Covers found.position

theorem firstProblem_covers {tree : Form} {text : String} {position : Position}
    (h : tree.firstProblem = some (text, position)) : tree.Covers position := by
  rw [firstProblem_eq] at h
  obtain ⟨form, hform, hfound⟩ := List.exists_of_findSome?_eq_some h
  obtain ⟨found, -, heq⟩ := Option.map_eq_some_iff.mp hfound
  exact ⟨form, hform, congrArg Prod.snd heq⟩

theorem within_self (tree : Form) : tree.Within tree := fun found hfound => ⟨found, hfound, rfl⟩

theorem within_list {tree : Form} {items : List Form} {literal : Bool} {position : Position}
    {problem : Option String} :
    tree.Within (list items literal position problem) ↔
      tree.Covers position ∧ ∀ item ∈ items, tree.Within item := by
  simp only [Within, preorder, List.forall_mem_cons, mem_preorderIn, Form.position]
  refine and_congr_right fun _ => ?_
  constructor
  · exact fun h item hitem found hfound => h found ⟨item, hitem, hfound⟩
  · rintro h found ⟨item, hitem, hfound⟩
    exact h item hitem found hfound

private theorem within_leaf {tree : Form} {value : Value} {position : Position}
    {problem : Option String} :
    tree.Within (leaf value position problem) ↔ tree.Covers position := by
  simp [Within, preorder, Form.position]

theorem Within.covers {tree form : Form} (h : tree.Within form) : tree.Covers form.position :=
  h form form.self_mem_preorder

end Form

/-- The call that a step of a pipeline stands for has no position that the step does not have. -/
theorem pipeStep_within {defs : Definitions} {tree step call : Form} (hstep : tree.Within step)
    (h : pipeStep defs step = .ok call) : tree.Within call := by
  have hslot : tree.Within (.ofSymbol pipeVariable step.position) :=
    Form.within_leaf.mpr hstep.covers
  unfold pipeStep at h
  split at h
  · cases h
    refine Form.within_list.mpr ⟨hstep.covers, ?_⟩
    simp [hstep, hslot]
  · cases h
    obtain ⟨hposition, hitems⟩ := Form.within_list.mp hstep
    refine Form.within_list.mpr ⟨hposition, ?_⟩
    intro item hitem
    simp only [List.mem_cons, List.mem_append] at hitem
    rcases hitem with rfl | htaken | rfl | hdropped
    · exact hitems item (by simp)
    · exact hitems item (by simp [List.mem_of_mem_take htaken])
    · exact hslot
    · exact hitems item (by simp [List.mem_of_mem_drop hdropped])
  · cases h

def EntryKind.isBuiltIn : EntryKind → Bool
  | .form (.special _) => true
  | .form (.host _) => false
  | .expression (.special _) => true
  | .expression (.host _) => false
  | .function _ => true

/-- The operators in a table are all built in. Its functions are arbitrary. -/
def Definitions.BuiltIn (defs : Definitions) : Prop :=
  ∀ pair ∈ defs.table, pair.2.kind.isBuiltIn = true

def RefusedWithin (tree : Form) (failure : Failure) : Prop :=
  ∃ position cause, failure = .located position cause ∧ tree.Covers position ∧ cause.Refusal

theorem RefusedWithin.refusedBy {tree : Form} {failure : Failure} (h : RefusedWithin tree failure)
    (hproblem : ∀ text position, tree.firstProblem = some (text, position) →
      failure.message = text ∧ failure.position = some position) : tree.RefusedBy failure := by
  obtain ⟨position, cause, rfl, ⟨form, hform, rfl⟩, hcategory, hkind, hpayload⟩ := h
  exact {
    category := hcategory
    kind := hkind
    payload := hpayload
    trace := rfl
    place := ⟨form, hform, rfl⟩
    problem := fun _ _ _ _ htree hbefore hfirst =>
      hproblem _ _ (Form.firstProblem_of_first htree hbefore hfirst) }

private theorem Definitions.BuiltIn.obeys {defs : Definitions} (h : defs.BuiltIn)
    (E : Failure → Prop) :
    defs.Obeys Interpreter.anyCode E := by
  intro pair hpair
  have hkind := h pair hpair
  cases hfound : pair.2.kind with
  | form operator =>
      cases operator with
      | special form => exact fun _ => .inl trivial
      | host accept => simp [hfound, EntryKind.isBuiltIn] at hkind
  | expression operator =>
      cases operator with
      | special expression => trivial
      | host accept => simp [hfound, EntryKind.isBuiltIn] at hkind
  | function ref => trivial

private theorem compilable_within (tree : Form) (defs : Definitions) :
    Compilable Interpreter.anyCode (RefusedWithin tree) defs tree.Within where
  nil := trivial
  data _ := trivial
  item := by
    intro form items hform hitems
    cases form with
    | leaf value position problem => cases hitems
    | list found literal position problem =>
        obtain rfl := Option.some.inj hitems
        exact (Form.within_list.mp hform).2
  step := pipeStep_within
  refusal hform hcause := ⟨_, _, rfl, hform.covers, hcause⟩
  loop _ _ := trivial

namespace Interpreter

private theorem compile_problem {tree : Form} {text : String} {position : Position}
    (h : tree.firstProblem = some (text, position)) (world : World) :
    ∃ after, compile tree world =
      .error (.failed (.located position (.parseProblem text))) after :=
  ⟨world.growSites world.sites.size, by simp only [compile, compiling, compileChecked, h]; rfl⟩

/-- A tree is compiled, and then no form of it has a problem, or it is refused. -/
theorem compile_refused_within {world : World} (htable : world.defs.BuiltIn) (tree : Form) :
    (∃ node after, compile tree world = .ok node after ∧
        ∀ form ∈ tree.preorder, form.problem = none) ∨
      ∃ failure after, compile tree world = .error (.failed failure) after ∧
        tree.RefusedBy failure := by
  cases hproblem : tree.firstProblem with
  | none =>
      have hgives := (compilable_within tree world.defs).compileChecked_gives
        (htable.obeys (RefusedWithin tree)) tree.within_self (by simp [hproblem])
      rcases compile_of_gives hgives with ⟨node, after, hrun, -⟩ | ⟨failure, after, hrun, hrefused⟩
      · exact .inl ⟨node, after, hrun, Form.firstProblem_eq_none.mp hproblem⟩
      · refine .inr ⟨failure, after, hrun, hrefused.refusedBy ?_⟩
        intro text position hfound
        rw [hproblem] at hfound
        cases hfound
  | some found =>
      obtain ⟨text, position⟩ := found
      obtain ⟨after, hrun⟩ := compile_problem hproblem world
      have hrefused : RefusedWithin tree (.located position (.parseProblem text)) :=
        ⟨position, _, rfl, Form.firstProblem_covers hproblem, rfl, rfl, rfl⟩
      refine .inr ⟨_, after, hrun, hrefused.refusedBy ?_⟩
      intro other place hfound
      rw [hproblem] at hfound
      cases hfound
      exact ⟨rfl, rfl⟩

/-- A conditional without parts is refused, but the problem in the quoted data after it comes first.
-/
theorem compile_refused_within_quoted :
    let world := World.initial .raise
    let place (column : Nat) : Position := { Position.start with column }
    let conditional : Form := .ofItems [.ofSymbol "IF" (place 8)] (place 7)
    let broken : Form := .leaf (.string "open") (place 14) (some "unterminated string")
    let data : Form := .list [.ofSymbol "A" (place 13), broken] true (place 12) none
    let tree : Form := .ofItems [.ofSymbol "PROGN" (place 2), conditional, data] (place 1)
    world.defs.BuiltIn ∧ ∃ failure after, compile tree world = .error (.failed failure) after ∧
      tree.RefusedBy failure ∧ failure.message = "unterminated string" ∧
        failure.position = some broken.position := by
  intro world place conditional broken data tree
  have htable : world.defs.BuiltIn := by
    unfold Definitions.BuiltIn
    decide +kernel
  refine ⟨htable, ?_⟩
  rcases compile_refused_within htable tree with
    ⟨node, after, hrun, hfree⟩ | ⟨failure, after, hrun, hrefused⟩
  · have hbroken : broken ∈ tree.preorder := by
      simp [tree, data, conditional, Form.preorder, Form.preorderIn, Form.ofItems, Form.ofSymbol,
        Form.self_mem_preorder]
    cases hfree broken hbroken
  · refine ⟨failure, after, hrun, hrefused, ?_⟩
    let before := [tree, .ofSymbol "PROGN" (place 2), conditional, .ofSymbol "IF" (place 8), data,
      .ofSymbol "A" (place 13)]
    refine hrefused.problem before [] rfl ?_ rfl
    simp [before, tree, data, conditional, Form.problem, Form.ofItems, Form.ofSymbol]

end Interpreter

end LispEngine
