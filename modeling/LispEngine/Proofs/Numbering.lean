import LispEngine.Proofs.Compilation

/-!
# The numbers of call sites

The compiler numbers the calls that it makes, one after the other. A log lists the arguments of the
calls made so far, in the order of their numbers. A compilation adds to the log and never changes
it, so that a number stands for one call, whatever is compiled later.
-/

namespace LispEngine

def CodeOf.site? {N : Type} : CodeOf N → Option (Nat × List N)
  | callNamed site _ arguments => some (site, arguments)
  | callComputed site _ arguments => some (site, arguments)
  | _ => none

theorem CodeOf.arguments_subset {N : Type} {code : CodeOf N} {site : Nat} {arguments : List N}
    (h : code.site? = some (site, arguments)) : arguments ⊆ code.children := by
  cases code with
  | callNamed number name nodes =>
      cases h
      exact List.Subset.refl _
  | callComputed number callee nodes =>
      cases h
      exact List.subset_cons_self _ _
  | _ => cases h

/-- The arguments of each call, in the order of their numbers. -/
abbrev SiteLog := List (List Node)

theorem SiteLog.getElem?_mono {log later : SiteLog} (hlater : log <+: later) {site : Nat}
    {arguments : List Node} (h : log[site]? = some arguments) : later[site]? = some arguments := by
  obtain ⟨hlt, rfl⟩ := List.getElem?_eq_some_iff.mp h
  exact List.prefix_iff_getElem?.mp hlater site hlt

inductive CodeOf.Sited (log : SiteLog) : Code → Prop where
  | intro {code : Code}
      (own : ∀ site arguments, code.site? = some (site, arguments) → log[site]? = some arguments)
      (inner : ∀ child ∈ code.children, CodeOf.Sited log child.code) : Sited log code

abbrev Node.Sited (log : SiteLog) (node : Node) : Prop := node.code.Sited log

namespace CodeOf.Sited

variable {log later : SiteLog} {code : Code}

theorem own (h : code.Sited log) {site : Nat} {arguments : List Node}
    (hsite : code.site? = some (site, arguments)) : log[site]? = some arguments := by
  cases h with
  | intro own inner => exact own site arguments hsite

theorem inner (h : code.Sited log) : ∀ child ∈ code.children, child.Sited log := by
  cases h with
  | intro own inner => exact inner

theorem of_children (hsite : code.site? = none) (h : ∀ child ∈ code.children, child.Sited log) :
    code.Sited log := by
  refine .intro ?_ h
  intro site arguments heq
  rw [hsite] at heq
  cases heq

theorem mono (hlater : log <+: later) (h : code.Sited log) : code.Sited later := by
  induction h with
  | intro own inner ih =>
      refine .intro ?_ ih
      intro site arguments hsite
      exact SiteLog.getElem?_mono hlater (own site arguments hsite)

end CodeOf.Sited

namespace Compile

variable {α β : Type} {known : List Node} {Q : SiteLog → α → Prop} {R : SiteLog → β → Prop}

def Holding (nodes : α → List Node) (log : SiteLog) (a : α) : Prop :=
  ∀ node ∈ nodes a, node.Sited log

def CodeSited (log : SiteLog) (code : Code) : Prop := code.Sited log

def Logs (log : SiteLog) (Q : SiteLog → α → Prop) : EStateM.Result Signal Nat α → Prop
  | .ok a next => ∃ later, log <+: later ∧ later.length = next ∧ Q later a
  | .error _ next => log.length ≤ next

def Numbers (known : List Node) (Q : SiteLog → α → Prop) (compilation : Compile α) : Prop :=
  ∀ log, (∀ node ∈ known, node.Sited log) → Logs log Q (compilation log.length)

theorem numbers_pure {a : α} (h : ∀ log, (∀ node ∈ known, node.Sited log) → Q log a) :
    Numbers known Q (pure a) :=
  fun log hknown => ⟨log, List.prefix_refl log, rfl, h log hknown⟩

theorem numbers_holding {nodes : α → List Node} {a : α} (h : nodes a ⊆ known) :
    Numbers known (Holding nodes) (pure a) :=
  numbers_pure fun _ hknown node hnode => hknown node (h hnode)

theorem numbers_code {code : Code} (hsite : code.site? = none) (h : code.children ⊆ known) :
    Numbers known CodeSited (pure code) :=
  numbers_pure fun _ hknown => .of_children hsite fun child hchild => hknown child (h hchild)

theorem numbers_throw (signal : Signal) : Numbers known Q (throw signal) :=
  fun _ _ => Nat.le_refl _

theorem numbers_refuse (position : Position) (cause : Cause) :
    Numbers known Q (refuse position cause) :=
  numbers_throw _

theorem numbers_bind {nodes : α → List Node} {compilation : Compile α} {rest : α → Compile β}
    (h : Numbers known (Holding nodes) compilation)
    (hrest : ∀ a, Numbers (nodes a ++ known) R (rest a)) :
    Numbers known R (compilation >>= rest) := by
  intro log hknown
  change Logs log R (EStateM.bind compilation rest log.length)
  have hfirst := h log hknown
  unfold EStateM.bind
  cases hrun : compilation log.length with
  | error signal next =>
      rw [hrun] at hfirst
      exact hfirst
  | ok a next =>
      rw [hrun] at hfirst
      obtain ⟨middle, hmiddle, rfl, hnodes⟩ := hfirst
      have hsecond := hrest a middle (by
        intro node hnode
        rcases List.mem_append.mp hnode with hnew | hold
        · exact hnodes node hnew
        · exact (hknown node hold).mono hmiddle)
      simp only
      cases hlast : rest a middle.length with
      | error signal next =>
          rw [hlast] at hsecond
          exact Nat.le_trans hmiddle.length_le hsecond
      | ok b next =>
          rw [hlast] at hsecond
          obtain ⟨later, hlater, hlength, hR⟩ := hsecond
          exact ⟨later, hmiddle.trans hlater, hlength, hR⟩

theorem numbers_map {compilation : Compile α} {f : α → β} (h : Numbers known Q compilation)
    (hf : ∀ log a, Q log a → R log (f a)) :
    Numbers known R (compilation >>= fun a => pure (f a)) := by
  intro log hknown
  change Logs log R (EStateM.bind compilation (fun a => pure (f a)) log.length)
  have hfirst := h log hknown
  unfold EStateM.bind
  cases hrun : compilation log.length with
  | error signal next =>
      rw [hrun] at hfirst
      exact hfirst
  | ok a next =>
      rw [hrun] at hfirst
      obtain ⟨later, hlater, hlength, hQ⟩ := hfirst
      exact ⟨later, hlater, hlength, hf later a hQ⟩

/-! ## What compiles no form -/

abbrev NoNodes : SiteLog → α → Prop := Holding fun _ => []

theorem numbers_plain (a : α) : Numbers known NoNodes (pure a : Compile α) :=
  numbers_holding (List.nil_subset _)

theorem ofExcept_numbers (result : Except Failure α) :
    Numbers known NoNodes (Compile.ofExcept result) := by
  cases result with
  | ok a => exact numbers_plain a
  | error failure => exact numbers_throw _

theorem expect_numbers (form : String) (parameters : List Form) (position : Position)
    (arity : Arity) : Numbers known NoNodes (expect form parameters position arity) := by
  unfold expect
  split
  · exact numbers_plain _
  · exact numbers_refuse _ _

theorem symbolName_numbers (form : Form) (what : String) :
    Numbers known NoNodes (symbolName form what) := by
  unfold symbolName
  split
  · exact numbers_plain _
  · exact numbers_refuse _ _

theorem errorKind_numbers (form : Form) : Numbers known NoNodes (errorKind form) := by
  refine numbers_bind (symbolName_numbers form _) ?_
  intro name
  split
  · exact numbers_plain _
  · exact numbers_refuse _ _

theorem flagName_numbers (form : Option Form) : Numbers known NoNodes (flagName form) := by
  unfold flagName
  split
  · exact numbers_plain _
  · split
    · exact numbers_plain _
    · exact numbers_refuse _ _

theorem dletPattern_numbers (items : List Form) :
    Numbers known NoNodes (Special.dletPattern items) := by
  induction items with
  | nil => exact numbers_plain _
  | cons item items ih =>
      unfold Special.dletPattern
      refine numbers_bind (symbolName_numbers item _) ?_
      intro name
      split
      · split
        · exact numbers_bind (symbolName_numbers _ _) fun _ => numbers_plain _
        · exact numbers_refuse _ _
      · exact numbers_bind ih fun _ => numbers_plain _

end Compile

open Compile

def NumbersForms (inner : FormCompiler) : Prop :=
  ∀ (known : List Node) (form : Form), Numbers known (Holding fun node => [node]) (inner form)

namespace NumbersForms

variable {inner : FormCompiler} {known : List Node} (hc : NumbersForms inner)

include hc

theorem all_numbers (forms : List Form) : Numbers known (Holding id) (all inner forms) := by
  induction forms generalizing known with
  | nil => exact numbers_holding (List.nil_subset _)
  | cons form forms ih =>
      refine numbers_bind (hc known form) fun node => numbers_bind ih fun nodes => ?_
      exact numbers_holding (by simp)

theorem optional_numbers (form : Option Form) :
    Numbers known (Holding Option.toList) (optional inner form) := by
  cases form with
  | none => exact numbers_holding (List.nil_subset _)
  | some form => exact numbers_bind (hc known form) fun node => numbers_holding (by simp)

/-! ## Lambda lists -/

omit hc in
theorem ofReader_numbers {α : Type} {nodes : α → List Node} (position : Position)
    {result : Except Cause α} (h : LambdaReader.Reads (fun a => nodes a ⊆ known) result) :
    Numbers known (Holding nodes) (ofReader position result) := by
  cases result with
  | ok a => exact numbers_holding h
  | error cause => exact numbers_refuse _ _

theorem parameterToken_numbers (form : Form) :
    Numbers known (Holding fun token => (LambdaReader.defaultOf token).toList)
      (parameterToken inner form) := by
  unfold parameterToken
  split
  · refine numbers_holding ?_
    unfold LambdaToken.ofText
    split
    · exact List.nil_subset _
    · exact List.nil_subset _
  · exact numbers_refuse _ _
  · split
    · exact numbers_refuse _ _
    · refine numbers_bind (hc.optional_numbers _) fun default => ?_
      refine numbers_bind (flagName_numbers _) fun flag => ?_
      exact numbers_holding (by simp [LambdaReader.defaultOf])

theorem readParameters_numbers (forms : List Form) {reader : LambdaReader Node}
    (h : LambdaParts.defaults reader.spec ⊆ known) :
    Numbers known (Holding fun reader => LambdaParts.defaults reader.spec)
      (readParameters inner reader forms) := by
  induction forms generalizing reader known with
  | nil => exact numbers_holding h
  | cons form forms ih =>
      refine numbers_bind (hc.parameterToken_numbers form) fun token => ?_
      have htaken : LambdaReader.Reads
          (fun next => LambdaParts.defaults next.spec ⊆
            (LambdaReader.defaultOf token).toList ++ known) (reader.take token) := by
        refine LambdaReader.take_reads (fun node hnode => ?_) (fun node hnode => ?_)
        · exact List.mem_append_right _ (h hnode)
        · exact List.mem_append_left _ (by simp [hnode])
      refine numbers_bind (ofReader_numbers form.position htaken) fun next => ih ?_
      exact List.subset_append_left _ _

theorem lambdaList_numbers (forms : List Form) :
    Numbers known (Holding LambdaParts.defaults) (lambdaList inner forms) := by
  have hstart : LambdaParts.defaults (LambdaReader.start : LambdaReader Node).spec ⊆ known := by
    simp [LambdaReader.start, LambdaList.empty, LambdaParts.defaults]
  refine numbers_bind (hc.readParameters_numbers forms hstart) fun reader => ?_
  refine ofReader_numbers _ (LambdaReader.finish_reads fun node hnode => ?_)
  exact List.mem_append_left _ hnode

theorem lambdaParts_numbers (parameters : Form) (rest : List Form) :
    Numbers known (Holding LambdaParts.children) (lambdaParts inner parameters rest) := by
  unfold lambdaParts
  split
  · exact numbers_refuse _ _
  · refine numbers_bind (hc.lambdaList_numbers _) fun spec => ?_
    refine numbers_bind (hc.all_numbers _) fun nodes => ?_
    exact numbers_holding (by simp [LambdaParts.children])

/-! ## Special forms -/

theorem ifElse_numbers (parameters : List Form) (position : Position) :
    Numbers known (Holding FormOf.children) (Special.ifElse inner parameters position) := by
  unfold Special.ifElse
  split
  · refine numbers_bind (hc _ _) fun test => numbers_bind (hc _ _) fun onTrue => ?_
    refine numbers_bind (hc.all_numbers _) fun onFalse => ?_
    exact numbers_holding (by simp [FormOf.children])
  · exact numbers_refuse _ _

theorem condClauses_numbers (clauses : List Form) :
    Numbers known (Holding fun clauses => clauses.flatMap fun clause => clause.1 :: clause.2)
      (Special.condClauses inner clauses) := by
  induction clauses generalizing known with
  | nil => exact numbers_holding (List.nil_subset _)
  | cons clause clauses ih =>
      unfold Special.condClauses
      split
      · refine numbers_bind (hc known _) fun test => ?_
        refine numbers_bind (hc.all_numbers _) fun body => ?_
        refine numbers_bind ih fun rest => ?_
        exact numbers_holding (by simp)
      · exact numbers_refuse _ _

theorem guarded_numbers (form : String) (parameters : List Form) (position : Position) :
    Numbers known (Holding fun parts => parts.1 :: parts.2)
      (Special.guarded inner form parameters position) := by
  unfold Special.guarded
  split
  · refine numbers_bind (hc known _) fun test => ?_
    exact numbers_bind (hc.all_numbers _) fun body => numbers_holding (by simp)
  · exact numbers_refuse _ _

theorem foreach_numbers (parameters : List Form) (position : Position) :
    Numbers known (Holding FormOf.children) (Special.foreach inner parameters position) := by
  unfold Special.foreach
  split
  · exact numbers_refuse _ _
  · split
    · exact numbers_refuse _ _
    · refine numbers_bind (symbolName_numbers _ _) fun name => ?_
      refine numbers_bind (hc _ _) fun source => ?_
      refine numbers_bind (hc.optional_numbers _) fun result => ?_
      refine numbers_bind (hc.all_numbers _) fun body => ?_
      exact numbers_holding (by simp [FormOf.children])

theorem throwForm_numbers (parameters : List Form) (position : Position) :
    Numbers known (Holding FormOf.children) (Special.throwForm inner parameters position) := by
  unfold Special.throwForm
  split
  · exact numbers_bind (hc _ _) fun message => numbers_holding (by simp [FormOf.children])
  · refine numbers_bind (errorKind_numbers _) fun kind => ?_
    exact numbers_bind (hc _ _) fun message => numbers_holding (by simp [FormOf.children])
  · exact numbers_refuse _ _

theorem pipeSteps_numbers (defs : Definitions) (steps : List Form) :
    Numbers known (Holding id) (Special.pipeSteps inner defs steps) := by
  induction steps generalizing known with
  | nil => exact numbers_holding (List.nil_subset _)
  | cons step steps ih =>
      refine numbers_bind (ofExcept_numbers _) fun call => ?_
      refine numbers_bind (hc _ call) fun node => numbers_bind ih fun nodes => ?_
      exact numbers_holding (by simp)

theorem pipe_numbers (defs : Definitions) (parameters : List Form) (position : Position) :
    Numbers known (Holding FormOf.children) (Special.pipe inner defs parameters position) := by
  unfold Special.pipe
  split
  · refine numbers_bind (hc.pipeSteps_numbers defs _) fun steps => ?_
    refine numbers_bind (hc _ _) fun first => ?_
    exact numbers_holding (by simp [FormOf.children])
  · exact numbers_refuse _ _

theorem letBinding_numbers (form : Form) :
    Numbers known (Holding fun binding => binding.2.toList) (Special.letBinding inner form) := by
  unfold Special.letBinding
  split
  · exact numbers_holding (List.nil_subset _)
  · exact numbers_bind (symbolName_numbers _ _) fun name => numbers_holding (List.nil_subset _)
  · refine numbers_bind (symbolName_numbers _ _) fun name => ?_
    exact numbers_bind (hc _ _) fun node => numbers_holding (by simp)
  · exact numbers_refuse _ _

theorem letBindings_numbers (forms : List Form) :
    Numbers known (Holding fun bindings => bindings.filterMap (·.2))
      (Special.letBindings inner forms) := by
  induction forms generalizing known with
  | nil => exact numbers_holding (List.nil_subset _)
  | cons form forms ih =>
      refine numbers_bind (hc.letBinding_numbers form) fun binding => ?_
      refine numbers_bind ih fun bindings => ?_
      obtain ⟨name, node⟩ := binding
      exact numbers_holding (by cases node <;> simp)

theorem letForm_numbers (parameters : List Form) (position : Position) :
    Numbers known (Holding FormOf.children) (Special.letForm inner parameters position) := by
  unfold Special.letForm
  split
  · exact numbers_refuse _ _
  · split
    · exact numbers_refuse _ _
    · refine numbers_bind (hc.letBindings_numbers _) fun bindings => ?_
      refine numbers_bind (hc.all_numbers _) fun body => ?_
      exact numbers_holding (by simp [FormOf.children])

theorem dlet_numbers (parameters : List Form) (position : Position) :
    Numbers known (Holding FormOf.children) (Special.dlet inner parameters position) := by
  unfold Special.dlet
  split
  · split
    · exact numbers_refuse _ _
    · refine numbers_bind (dletPattern_numbers _) fun names => ?_
      refine numbers_bind (hc _ _) fun source => ?_
      refine numbers_bind (hc.all_numbers _) fun body => ?_
      exact numbers_holding (by simp [FormOf.children])
  · exact numbers_refuse _ _

theorem assignments_numbers (forms : List Form) :
    Numbers known (Holding fun pairs => pairs.map (·.2)) (Special.assignments inner forms) := by
  fun_induction Special.assignments inner forms generalizing known with
  | case1 name value rest ih =>
      refine numbers_bind (symbolName_numbers _ _) fun name => ?_
      refine numbers_bind (hc _ value) fun node => numbers_bind ih fun pairs => ?_
      exact numbers_holding (by simp)
  | case2 => exact numbers_holding (List.nil_subset _)

theorem assign_numbers (form : String) (discipline : Discipline) (parameters : List Form)
    (position : Position) :
    Numbers known (Holding FormOf.children)
      (Special.assign inner form discipline parameters position) := by
  unfold Special.assign
  split
  · exact numbers_refuse _ _
  · refine numbers_bind (hc.assignments_numbers parameters) fun pairs => ?_
    exact numbers_holding (by simp [FormOf.children])

theorem lambda_numbers (parameters : List Form) (position : Position) :
    Numbers known (Holding FormOf.children) (Special.lambda inner parameters position) := by
  unfold Special.lambda
  split
  · refine numbers_bind (hc.lambdaParts_numbers _ _) fun parts => ?_
    exact numbers_holding (by simp [FormOf.children])
  · exact numbers_refuse _ _

theorem defun_numbers (parameters : List Form) (position : Position) :
    Numbers known (Holding FormOf.children) (Special.defun inner parameters position) := by
  unfold Special.defun
  split
  · refine numbers_bind (symbolName_numbers _ _) fun name => ?_
    refine numbers_bind (hc.lambdaParts_numbers _ _) fun parts => ?_
    exact numbers_holding (by simp [FormOf.children])
  · exact numbers_refuse _ _

theorem function_numbers (parameters : List Form) (position : Position) :
    Numbers known (Holding FormOf.children) (Special.function inner parameters position) := by
  unfold Special.function
  split
  · split
    · exact numbers_holding (List.nil_subset _)
    · refine numbers_bind (hc _ _) fun node => ?_
      exact numbers_holding (by simp [FormOf.children])
  · exact numbers_refuse _ _

theorem catchClause_numbers (clause : Form) :
    Numbers known (Holding CatchClause.body) (Special.catchClause inner clause) := by
  unfold Special.catchClause
  split
  · refine numbers_bind (errorKind_numbers _) fun kind => ?_
    refine numbers_bind (symbolName_numbers _ _) fun name => ?_
    exact numbers_bind (hc.all_numbers _) fun body => numbers_holding (by simp)
  · exact numbers_refuse _ _

theorem catchClauses_numbers (clauses : List Form) :
    Numbers known (Holding fun catches => catches.flatMap (·.body))
      (Special.catchClauses inner clauses) := by
  induction clauses generalizing known with
  | nil => exact numbers_holding (List.nil_subset _)
  | cons clause clauses ih =>
      refine numbers_bind (hc.catchClause_numbers clause) fun first => ?_
      refine numbers_bind ih fun rest => ?_
      exact numbers_holding (by simp)

theorem finalizerBody_numbers (clause : Option Form) :
    Numbers known (Holding fun cleanup => cleanup.getD [])
      (Special.finalizerBody inner clause) := by
  cases clause with
  | none => exact numbers_holding (List.nil_subset _)
  | some clause => exact numbers_bind (hc.all_numbers _) fun body => numbers_holding (by simp)

theorem tryForm_numbers (parameters : List Form) :
    Numbers known (Holding FormOf.children) (Special.tryForm inner parameters) := by
  refine numbers_bind (ofExcept_numbers _) fun clauses => ?_
  refine numbers_bind (hc.catchClauses_numbers _) fun catches => ?_
  refine numbers_bind (hc.finalizerBody_numbers _) fun finalizer => ?_
  refine numbers_bind (hc.all_numbers _) fun body => ?_
  exact numbers_holding (by grind [FormOf.children])

theorem special_numbers (defs : Definitions) (form : SpecialForm) (parameters : List Form)
    (position : Position) :
    Numbers known (Holding FormOf.children)
      (Special.compile inner defs form parameters position) := by
  have hguarded (name : String) {build : Node → List Node → BuiltIn}
      (hbuild : ∀ test body, (build test body).children = test :: body) :
      Numbers known (Holding FormOf.children) (do
        let parts ← Special.guarded inner name parameters position
        return build parts.1 parts.2) := by
    refine numbers_bind (hc.guarded_numbers name parameters position) fun parts => ?_
    exact numbers_holding (by simp [hbuild])
  have hlist {build : List Node → BuiltIn} (hbuild : ∀ nodes, (build nodes).children = nodes) :
      Numbers known (Holding FormOf.children) (do return build (← all inner parameters)) := by
    refine numbers_bind (hc.all_numbers parameters) fun nodes => ?_
    exact numbers_holding (by simp [hbuild])
  cases form with
  | quote =>
      exact numbers_bind (expect_numbers _ _ _ _) fun _ => numbers_holding (List.nil_subset _)
  | progn => exact hlist fun _ => rfl
  | allOf => exact hlist fun _ => rfl
  | anyOf => exact hlist fun _ => rfl
  | whenTrue => exact hguarded "WHEN" fun _ _ => rfl
  | whenFalse => exact hguarded "UNLESS" fun _ _ => rfl
  | whileLoop => exact hguarded "WHILE" fun _ _ => rfl
  | ifElse => exact hc.ifElse_numbers parameters position
  | cond =>
      refine numbers_bind (hc.condClauses_numbers parameters) fun clauses => ?_
      exact numbers_holding (by simp [FormOf.children])
  | foreach => exact hc.foreach_numbers parameters position
  | returnForm =>
      refine numbers_bind (expect_numbers _ _ _ _) fun _ => ?_
      refine numbers_bind (hc.optional_numbers _) fun value => ?_
      exact numbers_holding (by simp [FormOf.children])
  | throwForm => exact hc.throwForm_numbers parameters position
  | pipe => exact hc.pipe_numbers defs parameters position
  | letForm => exact hc.letForm_numbers parameters position
  | dlet => exact hc.dlet_numbers parameters position
  | setq => exact hc.assign_numbers "SETQ" .global parameters position
  | setv => exact hc.assign_numbers "SETV" .nearest parameters position
  | lambda => exact hc.lambda_numbers parameters position
  | defun => exact hc.defun_numbers parameters position
  | function => exact hc.function_numbers parameters position
  | tryForm => exact hc.tryForm_numbers parameters

omit hc in
theorem specialExpression_numbers (expression : SpecialExpression) {parameters : List Node}
    (position : Position) (h : parameters ⊆ known) :
    Numbers known (Holding FormOf.children)
      (Special.compileExpression expression parameters position) := by
  unfold Special.compileExpression
  split
  · exact numbers_holding h
  · exact numbers_refuse _ _
  · exact numbers_holding h
  · exact numbers_refuse _ _

omit hc in
theorem setParameters_numbers {parameters : BuiltIn} (position : Position)
    (h : parameters.children ⊆ known) :
    Numbers known CodeSited (setParameters parameters position) :=
  numbers_code rfl h

/-! ## Calls -/

omit hc in
/-- A new number is that of a call whose arguments are compiled already: the log gets its one new
entry here. -/
theorem numbers_call {build : Nat → Code} {arguments : List Node}
    (hsite : ∀ site, (build site).site? = some (site, arguments))
    (hchildren : ∀ site, (build site).children ⊆ known) :
    Numbers known CodeSited (do let site ← newSite; return build site) := by
  intro log hknown
  refine ⟨log ++ [arguments], List.prefix_append log _, by simp, .intro ?_ ?_⟩
  · intro site found heq
    rw [hsite] at heq
    cases heq
    simp
  · intro child hchild
    exact (hknown child (hchildren _ hchild)).mono (List.prefix_append log _)

theorem namedCall_numbers (name : String) (arguments : List Form) :
    Numbers known CodeSited (compileNamedCall inner name arguments) := by
  refine numbers_bind (hc.all_numbers arguments) fun nodes => ?_
  exact numbers_call (fun _ => rfl) fun _ => List.subset_append_left _ _

theorem computedCall_numbers (head : Form) (arguments : List Form) :
    Numbers known CodeSited (compileComputedCall inner head arguments) := by
  refine numbers_bind (hc _ head) fun callee => ?_
  refine numbers_bind (hc.all_numbers arguments) fun nodes => ?_
  exact numbers_call (fun _ => rfl) fun _ => by simp [CodeOf.children]

theorem operator_numbers (defs : Definitions) (name : String) (arguments : List Form)
    (position : Position) :
    Numbers known CodeSited (compileOperator inner defs name arguments position) := by
  unfold compileOperator
  split
  · exact numbers_bind (hc.special_numbers defs _ arguments position) fun parameters =>
      setParameters_numbers position (List.subset_append_left _ _)
  · exact numbers_bind (ofExcept_numbers _) fun action => numbers_code rfl (List.nil_subset _)
  · refine numbers_bind (hc.all_numbers arguments) fun nodes => ?_
    exact numbers_bind (specialExpression_numbers _ position (List.subset_append_left _ _))
      fun parameters => setParameters_numbers position (List.subset_append_left _ _)
  · refine numbers_bind (hc.all_numbers arguments) fun nodes => ?_
    refine numbers_bind (ofExcept_numbers _) fun action => ?_
    exact numbers_code rfl (List.subset_append_left _ _)
  · exact hc.namedCall_numbers name arguments
  · exact hc.namedCall_numbers name arguments

theorem call_numbers (defs : Definitions) (head : Form) (arguments : List Form)
    (position : Position) :
    Numbers known (Holding fun node => [node])
      (compileCall inner defs head arguments position) := by
  unfold compileCall
  split
  · refine numbers_map (hc.computedCall_numbers _ arguments) fun log code hcode => ?_
    exact List.forall_mem_singleton.mpr hcode
  · refine numbers_map (hc.operator_numbers defs _ arguments position) fun log code hcode => ?_
    exact List.forall_mem_singleton.mpr hcode
  · exact numbers_refuse _ _

theorem step_numbers (defs : Definitions) : NumbersForms (compileStep inner defs) := by
  intro known form
  have hleaf {code : Code} (name : String) (position : Option Position) (hsite : code.site? = none)
      (hchildren : code.children = []) :
      Numbers known (Holding fun node => [node]) (pure ⟨code, name, position⟩) := by
    refine numbers_pure fun log _ => List.forall_mem_singleton.mpr ?_
    exact .of_children hsite (by simp [hchildren])
  unfold compileStep
  split
  · exact numbers_refuse _ _
  · split
    · exact hleaf _ _ rfl rfl
    · exact hleaf _ _ rfl rfl
    · exact hleaf _ _ rfl rfl
    · exact hleaf _ _ rfl rfl
    · exact hc.call_numbers defs _ _ _

end NumbersForms

theorem compileWithin_numbers (defs : Definitions) (height : Nat) :
    NumbersForms (compileWithin defs height) := by
  induction height with
  | zero => exact fun _ _ => numbers_throw _
  | succ height ih => exact ih.step_numbers defs

theorem compileForm_numbers (defs : Definitions) : NumbersForms (compileForm defs) :=
  fun known form => compileWithin_numbers defs form.size known form

theorem compileChecked_numbers (defs : Definitions) : NumbersForms (compileChecked defs) := by
  intro known form
  unfold compileChecked
  split
  · exact numbers_refuse _ _
  · exact compileForm_numbers defs known form

end LispEngine
