import LispEngine.Compiler.Compile
import LispEngine.Proofs.Fragment

/-!
# What compilations give

One lemma for each function of the compiler: given what a compiler of inner forms makes of the forms
of some sort, what the function makes of forms whose parts are of that sort. A compilation ends with
a result or a failure, and the failures of the compiler itself stand at the position of a form that
it was given.
-/

namespace LispEngine

namespace Compile

variable {α β : Type} {E : Failure → Prop} {Q : α → Prop} {R : β → Prop}

def Ends (E : Failure → Prop) (Q : α → Prop) : EStateM.Result Signal Nat α → Prop
  | .ok a _ => Q a
  | .error (.failed failure) _ => E failure
  | .error _ _ => False

def Gives (E : Failure → Prop) (Q : α → Prop) (compilation : Compile α) : Prop :=
  ∀ next, Ends E Q (compilation next)

theorem gives_pure {a : α} (h : Q a) : Gives E Q (pure a) := fun _ => h

theorem gives_refuse {position : Position} {cause : Cause} (h : E (.located position cause)) :
    Gives E Q (refuse position cause) :=
  fun _ => h

theorem gives_ran {compilation : Compile α} (h : Gives E Q compilation) :
    Gives E (fun a => Q a ∧ ∃ count last, compilation count = .ok a last) compilation := by
  intro next
  have hends := h next
  cases hrun : compilation next with
  | ok a last =>
      rw [hrun] at hends
      exact ⟨hends, next, last, hrun⟩
  | error signal last =>
      rw [hrun] at hends
      cases signal with
      | failed failure => exact hends
      | returned v => exact hends
      | exhausted => exact hends

theorem gives_bind {compilation : Compile α} {rest : α → Compile β} (h : Gives E Q compilation)
    (hrest : ∀ a, Q a → Gives E R (rest a)) : Gives E R (compilation >>= rest) := by
  intro next
  change Ends E R (EStateM.bind compilation rest next)
  have hends := h next
  unfold EStateM.bind
  cases hrun : compilation next with
  | ok a later =>
      rw [hrun] at hends
      exact hrest a hends later
  | error signal later =>
      rw [hrun] at hends
      cases signal with
      | failed failure => exact hends
      | returned v => exact hends
      | exhausted => exact hends

theorem gives_ofExcept {result : Except Failure α} (hok : ∀ a, result = .ok a → Q a)
    (herror : ∀ failure, result = .error failure → E failure) :
    Gives E Q (Compile.ofExcept result) := by
  cases result with
  | ok a => exact gives_pure (hok a rfl)
  | error failure => exact fun _ => herror failure rfl

theorem gives_newSite : Gives E (fun _ => True) newSite := fun _ => trivial

end Compile

/-- A cause that arises only when code is compiled, and carries no value. -/
def CauseOf.Refusal {V : Type} (cause : CauseOf V) : Prop :=
  cause.category = .compile ∧ cause.kind = .compile ∧ cause.payload = none

/-! ## Reading lambda lists -/

namespace LambdaReader

variable {N : Node → Prop} {reader : LambdaReader Node}

def Reads {α : Type} (Q : α → Prop) : Except Cause α → Prop
  | .ok a => Q a
  | .error cause => cause.Refusal

def Declares (N : Node → Prop) (reader : LambdaReader Node) : Prop :=
  ∀ node ∈ LambdaParts.defaults reader.spec, N node

theorem start_declares : Declares N start := by
  simp [Declares, start, LambdaList.empty, LambdaParts.defaults]

private theorem defaults_allowInKeywords (spec : LambdaList Node) :
    LambdaParts.defaults (allowInKeywords spec) = LambdaParts.defaults spec := by
  rw [LambdaParts.defaults, allowInKeywords, List.filterMap_map]
  unfold LambdaParts.defaults
  congr 1
  funext p
  simp only [Function.comp_apply]
  split
  · rfl
  · rfl

theorem takeMarker_reads (h : Declares N reader) (text : String) :
    Reads (Declares N) (reader.takeMarker text) := by
  unfold takeMarker
  split
  · exact ⟨rfl, rfl, rfl⟩
  · exact h
  · exact h
  · split
    · exact ⟨rfl, rfl, rfl⟩
    · exact h
  · split
    · intro node hnode
      rw [defaults_allowInKeywords] at hnode
      exact h node hnode
    · exact ⟨rfl, rfl, rfl⟩
  · split
    · exact h
    · exact ⟨rfl, rfl, rfl⟩

theorem takeName_reads (h : Declares N reader) (name : String) {default : Option Node}
    (flag : Option String) (compound : Bool) (hdefault : ∀ node, default = some node → N node) :
    Reads (Declares N) (reader.takeName name default flag compound) := by
  unfold takeName
  split
  · exact ⟨rfl, rfl, rfl⟩
  split
  · exact ⟨rfl, rfl, rfl⟩
  split
  · exact ⟨rfl, rfl, rfl⟩
  split
  · exact ⟨rfl, rfl, rfl⟩
  · intro node hnode
    simp only [LambdaParts.defaults, LambdaList.add, List.filterMap_append,
      List.mem_append] at hnode
    rcases hnode with hold | hnew
    · exact h node hold
    · obtain ⟨p, hp, hnode⟩ := List.mem_filterMap.mp hnew
      obtain rfl := List.mem_singleton.mp hp
      exact hdefault node hnode

def defaultOf : LambdaToken Node → Option Node
  | .compound _ default _ => default
  | _ => none

theorem take_reads (h : Declares N reader) {token : LambdaToken Node}
    (htoken : ∀ node, defaultOf token = some node → N node) :
    Reads (Declares N) (reader.take token) := by
  cases token with
  | name name => exact takeName_reads h name none false (by simp)
  | marker text => exact takeMarker_reads h text
  | compound name default flag => exact takeName_reads h name flag true htoken

theorem finish_reads (h : Declares N reader) :
    Reads (fun spec => ∀ node ∈ LambdaParts.defaults spec, N node) reader.finish := by
  unfold finish
  split
  · exact ⟨rfl, rfl, rfl⟩
  · exact h

theorem takeAll_reads (h : Declares N reader) {tokens : List (LambdaToken Node)}
    (htokens : ∀ token ∈ tokens, ∀ node, defaultOf token = some node → N node) :
    Reads (Declares N) (reader.takeAll tokens) := by
  induction tokens generalizing reader with
  | nil => exact h
  | cons token tokens ih =>
      have htaken : Reads (Declares N) (reader.take token) :=
        take_reads h (htokens token (by simp))
      unfold takeAll
      cases htake : (reader.take token : Except Cause (LambdaReader Node)) with
      | error cause =>
          rw [htake] at htaken
          exact htaken
      | ok next =>
          rw [htake] at htaken
          exact ih htaken fun t ht => htokens t (by simp [ht])

theorem parse_reads (tokens : List String) :
    Reads (fun spec => ∀ node ∈ LambdaParts.defaults spec, N node) (LambdaList.parse tokens) := by
  have hall : Reads (Declares N) (start.takeAll (tokens.map LambdaToken.ofText)) := by
    refine takeAll_reads start_declares ?_
    intro token htoken node hnode
    obtain ⟨text, -, rfl⟩ := List.mem_map.mp htoken
    unfold LambdaToken.ofText at hnode
    split at hnode
    · cases hnode
    · cases hnode
  unfold LambdaList.parse LambdaList.ofTokens
  cases hread : (start.takeAll (tokens.map LambdaToken.ofText) :
      Except Cause (LambdaReader Node)) with
  | error cause =>
      rw [hread] at hall
      exact hall
  | ok reader =>
      rw [hread] at hall
      exact finish_reads hall

end LambdaReader

/-! ## The clauses of TRY -/

theorem mem_splitFinalizer {forms : List Form} {form : Form}
    (h : form ∈ (splitFinalizer forms).1) : form ∈ forms := by
  unfold splitFinalizer at h
  split at h
  · split at h
    · exact (List.dropLast_sublist forms).mem h
    · exact h
  · simp at h

theorem splitFinalizer_mem {forms : List Form} {form : Form}
    (h : (splitFinalizer forms).2 = some form) : form ∈ forms := by
  unfold splitFinalizer at h
  split at h
  · rename_i last hlast
    split at h
    · obtain rfl := Option.some.inj h
      exact List.mem_of_getLast? hlast
    · cases h
  · cases h

theorem misplacement_refusal (finalizer : Option Form) (kind : ClauseKind) :
    (misplacement finalizer kind).Refusal := by
  cases kind <;> cases finalizer <;> exact ⟨rfl, rfl, rfl⟩

private theorem firstMisplaced_refusal {finalizer : Option Form} {forms : List Form}
    {failure : Failure} (h : firstMisplaced finalizer forms = some failure) :
    ∃ form ∈ forms, ∃ cause : Cause, cause.Refusal ∧ failure = .located form.position cause := by
  induction forms with
  | nil => cases h
  | cons form forms ih =>
      unfold firstMisplaced at h
      split at h
      · rename_i kind _
        exact ⟨form, by simp, misplacement finalizer kind, misplacement_refusal finalizer kind,
          (Option.some.inj h).symm⟩
      · obtain ⟨found, hfound, hcause⟩ := ih h
        exact ⟨found, by simp [hfound], hcause⟩

theorem mem_splitCatches {forms : List Form} {form : Form}
    (h : form ∈ (splitCatches forms).1 ∨ form ∈ (splitCatches forms).2) : form ∈ forms := by
  rcases h with hbody | hcatch
  · exact List.mem_of_mem_take hbody
  · have hrun := (List.takeWhile_sublist _).mem (List.mem_reverse.mp hcatch)
    exact List.mem_reverse.mp hrun

theorem mem_splitClauses {parameters : List Form} {clauses : TryClauses}
    (h : splitClauses parameters = .ok clauses) :
    clauses.body ⊆ parameters ∧ clauses.catches ⊆ parameters ∧
      ∀ form, clauses.finalizer = some form → form ∈ parameters := by
  simp only [splitClauses] at h
  split at h
  · cases h
  · cases h
    exact ⟨fun form hform => mem_splitFinalizer (mem_splitCatches (.inl hform)),
      fun form hform => mem_splitFinalizer (mem_splitCatches (.inr hform)),
      fun form hform => splitFinalizer_mem hform⟩

theorem splitClauses_refusal {parameters : List Form} {failure : Failure}
    (h : splitClauses parameters = .error failure) :
    ∃ form ∈ parameters, ∃ cause : Cause, cause.Refusal ∧
      failure = .located form.position cause := by
  simp only [splitClauses] at h
  split at h
  · rename_i found hmisplaced
    cases h
    obtain ⟨form, hform, hcause⟩ := firstMisplaced_refusal hmisplaced
    exact ⟨form, mem_splitFinalizer (mem_splitCatches (.inl hform)), hcause⟩
  · cases h

/-! ## Parts of forms -/

theorem splitDoc_subset (body : List Form) : (splitDoc body).2 ⊆ body := by
  unfold splitDoc
  split
  · exact List.subset_cons_self _ _
  · exact List.Subset.refl _

theorem foreachHeader?_eq_some {header name source : Form} {result : Option Form}
    (h : Special.foreachHeader? header = some (name, source, result)) :
    ∃ items, header.items? = some items ∧ name ∈ items ∧ source ∈ items ∧
      ∀ form, result = some form → form ∈ items := by
  unfold Special.foreachHeader? at h
  split at h
  · rename_i items
    cases h
    exact ⟨_, items, by simp, by simp, by simp⟩
  · rename_i items
    cases h
    exact ⟨_, items, by simp, by simp, by simp⟩
  · cases h

/-! ## Steps of a pipeline -/

theorem pipeStep_refusal {defs : Definitions} {step : Form} {failure : Failure}
    (h : pipeStep defs step = .error failure) :
    ∃ cause : Cause, cause.Refusal ∧ failure = .located step.position cause := by
  unfold pipeStep at h
  split at h
  · cases h
  · cases h
  · cases h
    exact ⟨_, ⟨rfl, rfl, rfl⟩, rfl⟩

open Compile

/-- What a compiler of inner forms does with the forms of a sort `P`. -/
structure Compiles (P : Form → Prop) (E : Failure → Prop) (N : Node → Prop)
    (inner : FormCompiler) : Prop where
  node {form : Form} : P form → Gives E N (inner form)
  item {form : Form} {items : List Form} : P form → form.items? = some items →
    ∀ item ∈ items, P item
  refusal {form : Form} {cause : Cause} : P form → cause.Refusal →
    E (.located form.position cause)

namespace Compiles

variable {P : Form → Prop} {E : Failure → Prop} {N : Node → Prop} {inner : FormCompiler}
  (hc : Compiles P E N inner)

include hc

theorem all_gives {forms : List Form} (h : ∀ form ∈ forms, P form) :
    Gives E (fun nodes => ∀ node ∈ nodes, N node) (all inner forms) := by
  induction forms with
  | nil => exact gives_pure (by simp)
  | cons form forms ih =>
      refine gives_bind (hc.node (h form (by simp))) ?_
      intro node hnode
      refine gives_bind (ih fun f hf => h f (by simp [hf])) ?_
      intro nodes hnodes
      exact gives_pure (List.forall_mem_cons.mpr ⟨hnode, hnodes⟩)

theorem optional_gives {form : Option Form} (h : ∀ f, form = some f → P f) :
    Gives E (fun node => ∀ n, node = some n → N n) (optional inner form) := by
  cases form with
  | none => exact gives_pure (by simp)
  | some form =>
      refine gives_bind (hc.node (h form rfl)) ?_
      intro node hnode
      exact gives_pure (by simpa using hnode)

theorem symbolName_gives {form : Form} (h : P form) (what : String) :
    Gives E (fun _ => True) (symbolName form what) := by
  unfold symbolName
  split
  · exact gives_pure trivial
  · exact gives_refuse (hc.refusal h ⟨rfl, rfl, rfl⟩)

theorem errorKind_gives {form : Form} (h : P form) :
    Gives E (fun _ => True) (errorKind form) := by
  refine gives_bind (hc.symbolName_gives h _) ?_
  intro name _
  split
  · exact gives_pure trivial
  · exact gives_refuse (hc.refusal h ⟨rfl, rfl, rfl⟩)

/-! ## Lambda lists -/

theorem flagName_gives {form : Option Form} (h : ∀ f, form = some f → P f) :
    Gives E (fun _ => True) (flagName form) := by
  unfold flagName
  split
  · exact gives_pure trivial
  · rename_i form
    split
    · exact gives_pure trivial
    · exact gives_refuse (hc.refusal (h form rfl) ⟨rfl, rfl, rfl⟩)

theorem parameterToken_gives {form : Form} (h : P form) :
    Gives E (fun token => ∀ node, LambdaReader.defaultOf token = some node → N node)
      (parameterToken inner form) := by
  unfold parameterToken
  split
  · rename_i name _ _
    refine gives_pure ?_
    unfold LambdaToken.ofText
    split
    · simp [LambdaReader.defaultOf]
    · simp [LambdaReader.defaultOf]
  · exact gives_refuse (hc.refusal h ⟨rfl, rfl, rfl⟩)
  · rename_i items _ hitems
    have hitem := hc.item h hitems
    split
    · exact gives_refuse (hc.refusal h ⟨rfl, rfl, rfl⟩)
    · refine gives_bind (hc.optional_gives fun f hf => hitem f (List.mem_of_getElem? hf)) ?_
      intro default hdefault
      refine gives_bind (hc.flagName_gives fun f hf => hitem f (List.mem_of_getElem? hf)) ?_
      intro flag _
      exact gives_pure hdefault

omit hc in
theorem ofReader_gives {α : Type} {Q : α → Prop} {position : Position} {result : Except Cause α}
    (h : LambdaReader.Reads Q result)
    (hrefuse : ∀ cause : Cause, cause.Refusal → E (.located position cause)) :
    Gives E Q (ofReader position result) := by
  cases result with
  | ok a => exact gives_pure h
  | error cause => exact gives_refuse (hrefuse cause h)

theorem readParameters_gives {reader : LambdaReader Node} {forms : List Form}
    (hreader : reader.Declares N) (h : ∀ form ∈ forms, P form) :
    Gives E (LambdaReader.Declares N) (readParameters inner reader forms) := by
  induction forms generalizing reader with
  | nil => exact gives_pure hreader
  | cons form forms ih =>
      have hform := h form (by simp)
      refine gives_bind (hc.parameterToken_gives hform) ?_
      intro token htoken
      refine gives_bind (ofReader_gives (LambdaReader.take_reads hreader htoken)
        fun cause hcause => hc.refusal hform hcause) ?_
      intro next hnext
      exact ih hnext fun f hf => h f (by simp [hf])

theorem lambdaList_gives {forms : List Form} (h : ∀ form ∈ forms, P form) :
    Gives E (fun spec => ∀ node ∈ LambdaParts.defaults spec, N node)
      (lambdaList inner forms) := by
  rcases forms.eq_nil_or_concat with rfl | ⟨front, last, rfl⟩
  · exact fun _ => LambdaReader.start_declares
  · refine gives_bind (hc.readParameters_gives LambdaReader.start_declares h) ?_
    intro reader hreader
    refine ofReader_gives (LambdaReader.finish_reads hreader) ?_
    intro cause hcause
    simpa using hc.refusal (h last (by simp)) hcause

theorem lambdaParts_gives {parameters : Form} {rest : List Form} (h : P parameters)
    (hrest : ∀ form ∈ rest, P form) :
    Gives E (fun parts => parts.spec.Accepted ∧ ∀ node ∈ parts.children, N node)
      (lambdaParts inner parameters rest) := by
  unfold lambdaParts
  split
  · exact gives_refuse (hc.refusal h ⟨rfl, rfl, rfl⟩)
  · rename_i items hitems
    refine gives_bind (gives_ran (hc.lambdaList_gives (hc.item h hitems))) ?_
    rintro spec ⟨hspec, count, last, hcompiled⟩
    have hbody : ∀ form ∈ (splitDoc rest).2, P form :=
      fun form hform => hrest form (splitDoc_subset rest hform)
    refine gives_bind (hc.all_gives hbody) ?_
    intro nodes hnodes
    exact gives_pure ⟨.compiled hcompiled, List.forall_mem_append.mpr ⟨hspec, hnodes⟩⟩

/-! ## Special forms -/

def Builds (F : Fragment) (N : Node → Prop) (form : BuiltIn) : Prop :=
  form.Obeys F ∧ ∀ child ∈ form.children, N child

def BuildsCode (F : Fragment) (N : Node → Prop) (code : Code) : Prop :=
  code.Obeys F ∧ ∀ child ∈ code.children, N child

variable {F : Fragment} {parameters : List Form} (h : ∀ form ∈ parameters, P form)
  {position : Position} (hat : ∀ cause : Cause, cause.Refusal → E (.located position cause))

include hat in
omit hc in
theorem expect_gives (form : String) (arity : Arity) :
    Gives E (fun _ => True) (expect form parameters position arity) := by
  unfold expect
  split
  · exact gives_pure trivial
  · exact gives_refuse (hat _ ⟨rfl, rfl, rfl⟩)

include h hat in
omit hc in
theorem quote_gives (hnil : F.value .nil) (hdata : ∀ form, P form → F.value form.toValue) :
    Gives E (Builds F N) (Special.quote parameters position) := by
  refine gives_bind (expect_gives hat _ _) ?_
  intro _ _
  refine gives_pure ⟨?_, by simp [FormOf.children]⟩
  cases parameters with
  | nil => exact hnil
  | cons form forms => exact hdata form (h form (by simp))

include h

theorem progn_gives : Gives E (Builds F N) (Special.progn inner parameters) := by
  refine gives_bind (hc.all_gives h) ?_
  intro nodes hnodes
  exact gives_pure ⟨trivial, hnodes⟩

theorem allOf_gives : Gives E (Builds F N) (Special.allOf inner parameters) := by
  refine gives_bind (hc.all_gives h) ?_
  intro nodes hnodes
  exact gives_pure ⟨trivial, hnodes⟩

theorem anyOf_gives : Gives E (Builds F N) (Special.anyOf inner parameters) := by
  refine gives_bind (hc.all_gives h) ?_
  intro nodes hnodes
  exact gives_pure ⟨trivial, hnodes⟩

theorem condClauses_gives :
    Gives E (fun clauses => ∀ clause ∈ clauses, N clause.1 ∧ ∀ node ∈ clause.2, N node)
      (Special.condClauses inner parameters) := by
  induction parameters with
  | nil => exact gives_pure (by simp)
  | cons clause clauses ih =>
      unfold Special.condClauses
      split
      · rename_i test body hitems
        have hitem := hc.item (h clause (by simp)) hitems
        refine gives_bind (hc.node (hitem test (by simp))) ?_
        intro test htest
        refine gives_bind (hc.all_gives fun f hf => hitem f (by simp [hf])) ?_
        intro body hbody
        refine gives_bind (ih fun f hf => h f (by simp [hf])) ?_
        intro rest hrest
        exact gives_pure (List.forall_mem_cons.mpr ⟨⟨htest, hbody⟩, hrest⟩)
      · exact gives_refuse (hc.refusal (h clause (by simp)) ⟨rfl, rfl, rfl⟩)

theorem cond_gives : Gives E (Builds F N) (Special.cond inner parameters) := by
  refine gives_bind (hc.condClauses_gives h) ?_
  intro clauses hclauses
  refine gives_pure ⟨trivial, ?_⟩
  intro child hchild
  obtain ⟨clause, hclause, hmem⟩ := List.mem_flatMap.mp hchild
  exact List.forall_mem_cons.mpr (hclauses clause hclause) child hmem

omit h in
theorem letBinding_gives {form : Form} (hform : P form) :
    Gives E (fun binding => ∀ node, binding.2 = some node → N node)
      (Special.letBinding inner form) := by
  unfold Special.letBinding
  split
  · exact gives_pure (by simp)
  · rename_i name _ hitems
    refine gives_bind (hc.symbolName_gives (hc.item hform hitems name (by simp)) _) ?_
    intro name _
    exact gives_pure (by simp)
  · rename_i name value _ hitems
    refine gives_bind (hc.symbolName_gives (hc.item hform hitems name (by simp)) _) ?_
    intro name _
    refine gives_bind (hc.node (hc.item hform hitems value (by simp))) ?_
    intro node hnode
    exact gives_pure (by simpa using hnode)
  · exact gives_refuse (hc.refusal hform ⟨rfl, rfl, rfl⟩)

theorem letBindings_gives :
    Gives E (fun bindings => ∀ binding ∈ bindings, ∀ node, binding.2 = some node → N node)
      (Special.letBindings inner parameters) := by
  induction parameters with
  | nil => exact gives_pure (by simp)
  | cons form forms ih =>
      refine gives_bind (hc.letBinding_gives (h form (by simp))) ?_
      intro binding hbinding
      refine gives_bind (ih fun f hf => h f (by simp [hf])) ?_
      intro bindings hbindings
      exact gives_pure (List.forall_mem_cons.mpr ⟨hbinding, hbindings⟩)

theorem assignments_gives :
    Gives E (fun pairs => ∀ pair ∈ pairs, N pair.2) (Special.assignments inner parameters) := by
  fun_induction Special.assignments inner parameters with
  | case1 name value rest ih =>
      refine gives_bind (hc.symbolName_gives (h name (by simp)) _) ?_
      intro name _
      refine gives_bind (hc.node (h value (by simp))) ?_
      intro node hnode
      refine gives_bind (ih fun f hf => h f (by simp [hf])) ?_
      intro pairs hpairs
      exact gives_pure (List.forall_mem_cons.mpr ⟨hnode, hpairs⟩)
  | case2 => exact gives_pure (by simp)

theorem dletPattern_gives : Gives E (fun _ => True) (Special.dletPattern parameters) := by
  induction parameters with
  | nil => exact gives_pure trivial
  | cons item items ih =>
      have hitem := h item (by simp)
      unfold Special.dletPattern
      refine gives_bind (hc.symbolName_gives hitem _) ?_
      intro name _
      split
      · split
        · rename_i last
          refine gives_bind (hc.symbolName_gives (h last (by simp)) _) ?_
          intro last _
          exact gives_pure trivial
        · exact gives_refuse (hc.refusal hitem ⟨rfl, rfl, rfl⟩)
      · refine gives_bind (ih fun f hf => h f (by simp [hf])) ?_
        intro rest _
        exact gives_pure trivial

omit h in
theorem catchClause_gives {clause : Form} (hclause : P clause) :
    Gives E (fun result => ∀ node ∈ result.body, N node) (Special.catchClause inner clause) := by
  unfold Special.catchClause
  split
  · rename_i head kind name body hitems
    have hitem := hc.item hclause hitems
    refine gives_bind (hc.errorKind_gives (hitem kind (by simp))) ?_
    intro kind _
    refine gives_bind (hc.symbolName_gives (hitem name (by simp)) _) ?_
    intro name _
    refine gives_bind (hc.all_gives fun f hf => hitem f (by simp [hf])) ?_
    intro body hbody
    exact gives_pure hbody
  · exact gives_refuse (hc.refusal hclause ⟨rfl, rfl, rfl⟩)

theorem catchClauses_gives :
    Gives E (fun clauses => ∀ clause ∈ clauses, ∀ node ∈ clause.body, N node)
      (Special.catchClauses inner parameters) := by
  induction parameters with
  | nil => exact gives_pure (by simp)
  | cons clause clauses ih =>
      refine gives_bind (hc.catchClause_gives (h clause (by simp))) ?_
      intro first hfirst
      refine gives_bind (ih fun f hf => h f (by simp [hf])) ?_
      intro rest hrest
      exact gives_pure (List.forall_mem_cons.mpr ⟨hfirst, hrest⟩)

omit h in
theorem finalizerBody_gives {clause : Option Form} (hclause : ∀ form, clause = some form → P form) :
    Gives E (fun body => ∀ node ∈ body.getD [], N node) (Special.finalizerBody inner clause) := by
  cases clause with
  | none => exact gives_pure (by simp)
  | some clause =>
      have hitem : ∀ form ∈ (clause.items?.getD []).drop 1, P form := by
        intro form hform
        cases hitems : clause.items? with
        | none => simp [hitems] at hform
        | some items =>
            rw [hitems] at hform
            exact hc.item (hclause clause rfl) hitems form (List.mem_of_mem_drop hform)
      refine gives_bind (hc.all_gives hitem) ?_
      intro nodes hnodes
      exact gives_pure hnodes

theorem splitClauses_gives :
    Gives E (fun clauses => (∀ form ∈ clauses.body, P form) ∧
        (∀ form ∈ clauses.catches, P form) ∧ ∀ form, clauses.finalizer = some form → P form)
      (Compile.ofExcept (splitClauses parameters)) := by
  refine gives_ofExcept ?_ ?_
  · intro clauses hsplit
    obtain ⟨hbody, hcatches, hfinalizer⟩ := mem_splitClauses hsplit
    exact ⟨fun f hf => h f (hbody hf), fun f hf => h f (hcatches hf),
      fun f hf => h f (hfinalizer f hf)⟩
  · intro failure hsplit
    obtain ⟨form, hform, cause, hcause, rfl⟩ := splitClauses_refusal hsplit
    exact hc.refusal (h form hform) hcause

theorem tryForm_gives : Gives E (Builds F N) (Special.tryForm inner parameters) := by
  refine gives_bind (hc.splitClauses_gives h) ?_
  rintro clauses ⟨hforms, hcatchForms, hfinalizerForm⟩
  refine gives_bind (hc.catchClauses_gives hcatchForms) ?_
  intro catches hcatches
  refine gives_bind (hc.finalizerBody_gives hfinalizerForm) ?_
  intro finalizer hfinalizer
  refine gives_bind (hc.all_gives hforms) ?_
  intro body hbody
  refine gives_pure ⟨trivial, ?_⟩
  have hhandlers : ∀ node ∈ catches.flatMap (·.body), N node := by
    intro node hnode
    obtain ⟨clause, hclause, hmem⟩ := List.mem_flatMap.mp hnode
    exact hcatches clause hclause node hmem
  exact List.forall_mem_append.mpr ⟨List.forall_mem_append.mpr ⟨hbody, hhandlers⟩, hfinalizer⟩

omit h in
theorem foreachHeader_items {header name source : Form} {result : Option Form} (hheader : P header)
    (hparts : Special.foreachHeader? header = some (name, source, result)) :
    P name ∧ P source ∧ ∀ form, result = some form → P form := by
  obtain ⟨items, hitems, hname, hsource, hresult⟩ := foreachHeader?_eq_some hparts
  have hitem := hc.item hheader hitems
  exact ⟨hitem name hname, hitem source hsource, fun f hf => hitem f (hresult f hf)⟩

include hat

theorem ifElse_gives : Gives E (Builds F N) (Special.ifElse inner parameters position) := by
  unfold Special.ifElse
  split
  · rename_i test onTrue onFalse
    refine gives_bind (hc.node (h test (by simp))) ?_
    intro test htest
    refine gives_bind (hc.node (h onTrue (by simp))) ?_
    intro onTrue htrue
    refine gives_bind (hc.all_gives fun f hf => h f (by simp [hf])) ?_
    intro onFalse hfalse
    exact gives_pure ⟨trivial, List.forall_mem_cons.mpr ⟨htest,
      List.forall_mem_cons.mpr ⟨htrue, hfalse⟩⟩⟩
  · exact gives_refuse (hat _ ⟨rfl, rfl, rfl⟩)

theorem guarded_gives (form : String) :
    Gives E (fun parts => N parts.1 ∧ ∀ node ∈ parts.2, N node)
      (Special.guarded inner form parameters position) := by
  unfold Special.guarded
  split
  · rename_i test body
    refine gives_bind (hc.node (h test (by simp))) ?_
    intro test htest
    refine gives_bind (hc.all_gives fun f hf => h f (by simp [hf])) ?_
    intro body hbody
    exact gives_pure ⟨htest, hbody⟩
  · exact gives_refuse (hat _ ⟨rfl, rfl, rfl⟩)

theorem whenTrue_gives : Gives E (Builds F N) (Special.whenTrue inner parameters position) := by
  refine gives_bind (hc.guarded_gives h hat _) ?_
  rintro ⟨test, body⟩ ⟨htest, hbody⟩
  exact gives_pure ⟨trivial, List.forall_mem_cons.mpr ⟨htest, hbody⟩⟩

theorem whenFalse_gives : Gives E (Builds F N) (Special.whenFalse inner parameters position) := by
  refine gives_bind (hc.guarded_gives h hat _) ?_
  rintro ⟨test, body⟩ ⟨htest, hbody⟩
  exact gives_pure ⟨trivial, List.forall_mem_cons.mpr ⟨htest, hbody⟩⟩

theorem whileLoop_gives (hloops : F.loops) :
    Gives E (Builds F N) (Special.whileLoop inner parameters position) := by
  refine gives_bind (hc.guarded_gives h hat _) ?_
  rintro ⟨test, body⟩ ⟨htest, hbody⟩
  exact gives_pure ⟨hloops, List.forall_mem_cons.mpr ⟨htest, hbody⟩⟩

theorem foreach_gives : Gives E (Builds F N) (Special.foreach inner parameters position) := by
  unfold Special.foreach
  split
  · exact gives_refuse (hat _ ⟨rfl, rfl, rfl⟩)
  · rename_i header body
    have hheader := h header (by simp)
    split
    · exact gives_refuse (hc.refusal hheader ⟨rfl, rfl, rfl⟩)
    · rename_i name source result hparts
      obtain ⟨hname, hsource, hresult⟩ := hc.foreachHeader_items hheader hparts
      refine gives_bind (hc.symbolName_gives hname _) ?_
      intro name _
      refine gives_bind (hc.node hsource) ?_
      intro source hsource
      refine gives_bind (hc.optional_gives hresult) ?_
      intro result hresult
      refine gives_bind (hc.all_gives fun f hf => h f (by simp [hf])) ?_
      intro body hbody
      refine gives_pure ⟨trivial, ?_⟩
      simp only [FormOf.children, List.cons_append, List.forall_mem_cons, List.forall_mem_append,
        Option.mem_toList]
      exact ⟨hsource, hresult, hbody⟩

theorem returnForm_gives :
    Gives E (Builds F N) (Special.returnForm inner parameters position) := by
  refine gives_bind (expect_gives hat _ _) ?_
  intro _ _
  refine gives_bind (hc.optional_gives fun f hf => h f (List.mem_of_mem_head? hf)) ?_
  intro value hvalue
  refine gives_pure ⟨trivial, ?_⟩
  simpa only [FormOf.children, Option.mem_toList] using hvalue

theorem throwForm_gives :
    Gives E (Builds F N) (Special.throwForm inner parameters position) := by
  unfold Special.throwForm
  split
  · rename_i message
    refine gives_bind (hc.node (h message (by simp))) ?_
    intro node hnode
    exact gives_pure ⟨trivial, by simpa [FormOf.children] using hnode⟩
  · rename_i kind message
    refine gives_bind (hc.errorKind_gives (h kind (by simp))) ?_
    intro kind _
    refine gives_bind (hc.node (h message (by simp))) ?_
    intro node hnode
    exact gives_pure ⟨trivial, by simpa [FormOf.children] using hnode⟩
  · exact gives_refuse (hat _ ⟨rfl, rfl, rfl⟩)

theorem letForm_gives : Gives E (Builds F N) (Special.letForm inner parameters position) := by
  unfold Special.letForm
  split
  · exact gives_refuse (hat _ ⟨rfl, rfl, rfl⟩)
  · rename_i header body
    have hheader := h header (by simp)
    split
    · exact gives_refuse (hc.refusal hheader ⟨rfl, rfl, rfl⟩)
    · rename_i forms hitems
      refine gives_bind (hc.letBindings_gives (hc.item hheader hitems)) ?_
      intro bindings hbindings
      refine gives_bind (hc.all_gives fun f hf => h f (by simp [hf])) ?_
      intro body hbody
      refine gives_pure ⟨trivial, List.forall_mem_append.mpr ⟨?_, hbody⟩⟩
      intro node hnode
      obtain ⟨binding, hbinding, hsome⟩ := List.mem_filterMap.mp hnode
      exact hbindings binding hbinding node hsome

theorem dlet_gives : Gives E (Builds F N) (Special.dlet inner parameters position) := by
  unfold Special.dlet
  split
  · rename_i pattern source body
    have hpattern := h pattern (by simp)
    split
    · exact gives_refuse (hc.refusal hpattern ⟨rfl, rfl, rfl⟩)
    · rename_i items hitems
      refine gives_bind (hc.dletPattern_gives (hc.item hpattern hitems)) ?_
      rintro ⟨names, rest⟩ _
      refine gives_bind (hc.node (h source (by simp))) ?_
      intro source hsource
      refine gives_bind (hc.all_gives fun f hf => h f (by simp [hf])) ?_
      intro body hbody
      exact gives_pure ⟨trivial, List.forall_mem_cons.mpr ⟨hsource, hbody⟩⟩
  · exact gives_refuse (hat _ ⟨rfl, rfl, rfl⟩)

theorem assign_gives (form : String) (discipline : Discipline) :
    Gives E (Builds F N) (Special.assign inner form discipline parameters position) := by
  unfold Special.assign
  split
  · exact gives_refuse (hat _ ⟨rfl, rfl, rfl⟩)
  · refine gives_bind (hc.assignments_gives h) ?_
    intro pairs hpairs
    exact gives_pure ⟨trivial, List.forall_mem_map.mpr hpairs⟩

theorem lambda_gives : Gives E (Builds F N) (Special.lambda inner parameters position) := by
  unfold Special.lambda
  split
  · rename_i list rest
    refine gives_bind (hc.lambdaParts_gives (h list (by simp)) fun f hf => h f (by simp [hf])) ?_
    intro parts hparts
    exact gives_pure ⟨fun _ => hparts.1, hparts.2⟩
  · exact gives_refuse (hat _ ⟨rfl, rfl, rfl⟩)

theorem defun_gives : Gives E (Builds F N) (Special.defun inner parameters position) := by
  unfold Special.defun
  split
  · rename_i name list rest
    refine gives_bind (hc.symbolName_gives (h name (by simp)) _) ?_
    intro name _
    refine gives_bind (hc.lambdaParts_gives (h list (by simp)) fun f hf => h f (by simp [hf])) ?_
    intro parts hparts
    exact gives_pure ⟨fun _ => hparts.1, hparts.2⟩
  · exact gives_refuse (hat _ ⟨rfl, rfl, rfl⟩)

theorem function_gives : Gives E (Builds F N) (Special.function inner parameters position) := by
  unfold Special.function
  split
  · rename_i form
    split
    · exact gives_pure ⟨trivial, by simp [FormOf.children]⟩
    · refine gives_bind (hc.node (h form (by simp))) ?_
      intro node hnode
      exact gives_pure ⟨trivial, by simpa [FormOf.children] using hnode⟩
  · exact gives_refuse (hat _ ⟨rfl, rfl, rfl⟩)

omit hat in
theorem pipeSteps_gives {defs : Definitions}
    (hsteps : ∀ step ∈ parameters, ∀ call, pipeStep defs step = .ok call → P call) :
    Gives E (fun nodes => ∀ node ∈ nodes, N node)
      (Special.pipeSteps inner defs parameters) := by
  induction parameters with
  | nil => exact gives_pure (by simp)
  | cons step steps ih =>
      have hstep := h step (by simp)
      unfold Special.pipeSteps
      refine gives_bind (Q := P) (gives_ofExcept (hsteps step (by simp)) ?_) ?_
      · intro failure hfailure
        obtain ⟨cause, hcause, rfl⟩ := pipeStep_refusal hfailure
        exact hc.refusal hstep hcause
      · intro call hcall
        refine gives_bind (hc.node hcall) ?_
        intro node hnode
        refine gives_bind (ih (fun f hf => h f (by simp [hf]))
          fun f hf => hsteps f (by simp [hf])) ?_
        intro nodes hnodes
        exact gives_pure (List.forall_mem_cons.mpr ⟨hnode, hnodes⟩)

theorem pipe_gives {defs : Definitions}
    (hsteps : ∀ step ∈ parameters.tail, ∀ call, pipeStep defs step = .ok call → P call) :
    Gives E (Builds F N) (Special.pipe inner defs parameters position) := by
  unfold Special.pipe
  split
  · rename_i first steps
    refine gives_bind (hc.pipeSteps_gives (fun f hf => h f (by simp [hf])) hsteps) ?_
    intro steps hsteps
    refine gives_bind (hc.node (h first (by simp))) ?_
    intro first hfirst
    exact gives_pure ⟨trivial, List.forall_mem_cons.mpr ⟨hfirst, hsteps⟩⟩
  · exact gives_refuse (hat _ ⟨rfl, rfl, rfl⟩)

theorem special_gives {defs : Definitions} (form : SpecialForm) (hnil : F.value .nil)
    (hdata : ∀ form, P form → F.value form.toValue)
    (hsteps : ∀ step ∈ parameters.tail, ∀ call, pipeStep defs step = .ok call → P call)
    (hloops : form = .whileLoop → F.loops) :
    Gives E (Builds F N) (Special.compile inner defs form parameters position) := by
  cases form with
  | quote => exact quote_gives h hat hnil hdata
  | progn => exact hc.progn_gives h
  | ifElse => exact hc.ifElse_gives h hat
  | cond => exact hc.cond_gives h
  | whenTrue => exact hc.whenTrue_gives h hat
  | whenFalse => exact hc.whenFalse_gives h hat
  | allOf => exact hc.allOf_gives h
  | anyOf => exact hc.anyOf_gives h
  | whileLoop => exact hc.whileLoop_gives h hat (hloops rfl)
  | foreach => exact hc.foreach_gives h hat
  | returnForm => exact hc.returnForm_gives h hat
  | throwForm => exact hc.throwForm_gives h hat
  | pipe => exact hc.pipe_gives h hat hsteps
  | letForm => exact hc.letForm_gives h hat
  | dlet => exact hc.dlet_gives h hat
  | setq => exact hc.assign_gives h hat "SETQ" .global
  | setv => exact hc.assign_gives h hat "SETV" .nearest
  | lambda => exact hc.lambda_gives h hat
  | defun => exact hc.defun_gives h hat
  | function => exact hc.function_gives h hat
  | tryForm => exact hc.tryForm_gives h

omit hc h hat in
theorem setParameters_gives {form : BuiltIn} (hform : Builds F N form) :
    Gives E (BuildsCode F N) (setParameters form position) :=
  gives_pure ⟨⟨form, rfl, hform.1⟩, hform.2⟩

omit hat in
theorem namedCall_gives {name : String} :
    Gives E (BuildsCode F N) (compileNamedCall inner name parameters) := by
  refine gives_bind (hc.all_gives h) ?_
  intro nodes hnodes
  refine gives_bind gives_newSite ?_
  intro site _
  exact gives_pure ⟨trivial, hnodes⟩

omit hat in
theorem computedCall_gives {head : Form} (hhead : P head) :
    Gives E (BuildsCode F N) (compileComputedCall inner head parameters) := by
  refine gives_bind (hc.node hhead) ?_
  intro callee hcallee
  refine gives_bind (hc.all_gives h) ?_
  intro nodes hnodes
  refine gives_bind gives_newSite ?_
  intro site _
  exact gives_pure ⟨trivial, List.forall_mem_cons.mpr ⟨hcallee, hnodes⟩⟩

omit h hc in
theorem expression_gives (expression : SpecialExpression) {nodes : List Node}
    (hnodes : ∀ node ∈ nodes, N node) :
    Gives E (Builds F N) (Special.compileExpression expression nodes position) := by
  unfold Special.compileExpression
  split
  · exact gives_pure ⟨trivial, hnodes⟩
  · exact gives_refuse (hat _ ⟨rfl, rfl, rfl⟩)
  · exact gives_pure ⟨trivial, hnodes⟩
  · exact gives_refuse (hat _ ⟨rfl, rfl, rfl⟩)

end Compiles

end LispEngine
