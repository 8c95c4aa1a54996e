import LispEngine.Proofs.Clauses
import LispEngine.Proofs.Heights
import LispEngine.Proofs.Routes

/-!
# Throwing again what is caught

A failure that leaves a node of a form has its position and its backtrace settled, and no node that
it leaves later changes them. So a clause that throws again what it catches hands on the failure as
it was, and all that it leaves behind is the frame that its body ran in.
-/

namespace LispEngine

/-! ## Settled failures -/

structure FailureOf.Settled (failure : Failure) : Prop where
  position : failure.position.isSome = true
  trace : failure.trace.isSome = true

namespace FailureOf

variable {failure : Failure}

theorem Settled.annotate_eq (h : failure.Settled) (position : Option Position) (trace : Backtrace) :
    failure.annotate position trace = failure := by
  obtain ⟨cause, place, found⟩ := failure
  obtain ⟨hplace, hfound⟩ := h
  obtain ⟨place, rfl⟩ := Option.isSome_iff_exists.mp hplace
  obtain ⟨found, rfl⟩ := Option.isSome_iff_exists.mp hfound
  cases position with
  | none => rfl
  | some position => rfl

theorem settled_annotate (failure : Failure) {position : Option Position}
    (hposition : position.isSome = true) (trace : Backtrace) :
    Settled (failure.annotate position trace) := by
  obtain ⟨position, rfl⟩ := Option.isSome_iff_exists.mp hposition
  constructor
  · simp [annotate, withPosition, withTrace]
  · simp [annotate, withPosition, withTrace]

end FailureOf

def Outcome.Settled (outcome : Outcome) : Prop :=
  ∀ failure, outcome = .failed failure → failure.Settled

namespace Outcome

variable {outcome : Outcome}

theorem Settled.annotate_eq (h : outcome.Settled) (position : Option Position) (trace : Backtrace) :
    outcome.annotate position trace = outcome := by
  cases outcome with
  | value v => rfl
  | returned v => rfl
  | failed failure => exact congrArg failed ((h failure rfl).annotate_eq position trace)

theorem settled_annotate (outcome : Outcome) {position : Option Position}
    (hposition : position.isSome = true) (trace : Backtrace) :
    (outcome.annotate position trace).Settled := by
  intro failure hfailed
  cases outcome with
  | value v => cases hfailed
  | returned v => cases hfailed
  | failed inside =>
      cases hfailed
      exact inside.settled_annotate hposition trace

end Outcome

theorem World.find?_of_own {world : World} {id : FrameId} {frame : Frame} {name : String}
    {v : Value} (hframe : world.frame? id = some frame) (hown : frame.locals.find? name = some v) :
    world.find? id name = some (.value v) := by
  simp [find?, chain, chainWithin, hframe, localFind?, Frame.find?, hown]

namespace Eval

variable {limit fuel : Nat} {scope : FrameId} {world after : World} {outcome : Outcome}

private theorem node_settled {node : Node} (hplaced : node.position.isSome = true)
    (hroom : world.trace.isFull limit = false)
    (h : (evaluator limit fuel).node scope node world = outcome.result after) :
    outcome.Settled ∧ after.trace = world.trace := by
  cases fuel with
  | zero => exact absurd h.symm Outcome.result_ne_exhausted
  | succ fuel =>
      change step (evaluator limit fuel) limit fuel scope node world = _ at h
      rcases Outcome.exhausted_or_result (code (evaluator limit fuel) fuel scope node.code
        (world.entered ⟨node.name, node.position, scope⟩)) with ⟨cut, hcut⟩ | ⟨inside, last, hended⟩
      · rw [step_room hroom, EStateM.bind, observe, hcut] at h
        exact absurd h.symm Outcome.result_ne_exhausted
      · rw [step_eq_result fuel hroom hended, Outcome.result_inj] at h
        obtain ⟨rfl, rfl⟩ := h
        exact ⟨inside.settled_annotate hplaced _, rfl⟩

theorem body_settled {nodes : List Node} (hplaced : ∀ node ∈ nodes, node.position.isSome = true)
    (hroom : world.trace.isFull limit = false) {last : Value}
    (h : body (evaluator limit fuel) scope last nodes world = outcome.result after) :
    outcome.Settled ∧ after.trace = world.trace := by
  -- every node hands back the backtrace, so the next one has as much room
  induction nodes generalizing world last with
  | nil =>
      have hsame : (Outcome.value last).result world = outcome.result after := h
      obtain ⟨rfl, rfl⟩ := Outcome.result_inj.mp hsame
      refine ⟨?_, rfl⟩
      rintro failure ⟨⟩
  | cons node nodes ih =>
      obtain ⟨hfirst, hrest⟩ := List.forall_mem_cons.mp hplaced
      change EStateM.bind _ _ world = _ at h
      rcases Outcome.exhausted_or_result ((evaluator limit fuel).node scope node world) with
        ⟨cut, hcut⟩ | ⟨inside, middle, hended⟩
      · rw [EStateM.bind, hcut] at h
        exact absurd h.symm Outcome.result_ne_exhausted
      · obtain ⟨hsettled, htrace⟩ := node_settled hfirst hroom hended
        rw [EStateM.bind, hended] at h
        cases inside with
        | value v =>
            obtain ⟨hlater, hlast⟩ := ih hrest (htrace ▸ hroom) h
            exact ⟨hlater, hlast.trans htrace⟩
        | failed failure =>
            have hsame : (Outcome.failed failure).result middle = outcome.result after := h
            obtain ⟨rfl, rfl⟩ := Outcome.result_inj.mp hsame
            exact ⟨hsettled, htrace⟩
        | returned v =>
            have hsame : (Outcome.returned v).result middle = outcome.result after := h
            obtain ⟨rfl, rfl⟩ := Outcome.result_inj.mp hsame
            exact ⟨hsettled, htrace⟩

/-! ## The clause -/

/-- The node of (THROW name). -/
def rethrow (name : String) (thrown read : Position) : Node :=
  ⟨.ofForm (.throwWith .runtime ⟨.readVariable name, name, some read⟩), SpecialForm.throwForm.name,
    some thrown⟩

private theorem node_rethrow {name : String} {failure : Failure} (hsettled : failure.Settled)
    {frame : Frame} {index : Nat} (hframe : world.frame? scope = some frame)
    (hown : frame.locals.find? name = some (.error index failure))
    (hroom : world.trace.size + 2 ≤ limit) (thrown read : Position) :
    (evaluator limit (fuel + 2)).node scope (rethrow name thrown read) world =
      .error (.failed failure) world := by
  let call : Call := ⟨SpecialForm.throwForm.name, some thrown, scope⟩
  have hsize : (world.entered call).trace.size = world.trace.size + 1 := Backtrace.size_push _ _
  have hread : (evaluator limit (fuel + 1)).node scope ⟨.readVariable name, name, some read⟩
      (world.entered call) = .ok (.error index failure) (world.entered call) := by
    apply step_value (by omega)
    have hfind : ((world.entered call).entered ⟨name, some read, scope⟩).find? scope name =
        some (.value (.error index failure)) := World.find?_of_own hframe hown
    change readVariable _ scope name _ = _
    unfold readVariable
    simp only [run_get_bind, hfind]
    rfl
  have hcode : code (evaluator limit (fuel + 1)) (fuel + 1) scope (rethrow name thrown read).code
      (world.entered call) = (Outcome.failed failure).result (world.entered call) := by
    rw [rethrow, code_ofForm, form, throwWith, run_bind_ok hread]
    rfl
  have hfree : world.trace.isFull limit = false := Backtrace.isFull_eq_false.mpr (by omega)
  have hstep := step_eq_result (fuel + 1) hfree hcode
  rw [Outcome.annotate, hsettled.annotate_eq] at hstep
  exact hstep

theorem Ends.unique {action : Evaluator → Eval Value} (hextends : Extends action) {other : Outcome}
    {last : World} (h : Ends limit action world outcome after)
    (h' : Ends limit action world other last) : outcome = other ∧ after = last := by
  obtain ⟨fuel, hends⟩ := h
  obtain ⟨fuel', hends'⟩ := h'
  have hmore := hextends.add_fuel hends fuel'
  rw [Nat.add_comm, hextends.add_fuel hends' fuel, Outcome.result_inj] at hmore
  exact ⟨hmore.1.symm, hmore.2.symm⟩

private theorem ends_rethrow_iff {name : String} {failure : Failure} (hsettled : failure.Settled)
    (hroom : world.trace.size + 2 ≤ limit) (thrown read : Position) :
    Ends limit (fun ev => body ev (world.addHandler scope name failure).1 .nil
      [rethrow name thrown read])
        (world.addHandler scope name failure).2 outcome after ↔
      outcome = .failed failure ∧ after = (world.addHandler scope name failure).2 := by
  have hframe : (world.addHandler scope name failure).2.frame?
    (world.addHandler scope name failure).1 =
      some ⟨[(name, .error world.errorCount failure)], [], some scope, none,
        world.missingPolicy scope⟩ := by
    simp [World.addHandler, World.frame?]
  have hown : Bindings.find? name [(name, Value.error world.errorCount failure)] =
      some (.error world.errorCount failure) := by
    simp [Bindings.find?]
  have hthrow : Ends limit
      (fun ev => body ev (world.addHandler scope name failure).1 .nil [rethrow name thrown read])
      (world.addHandler scope name failure).2 (.failed failure)
        (world.addHandler scope name failure).2 := by
    refine ⟨2, ?_⟩
    change EStateM.bind _ _ _ = _
    rw [EStateM.bind, node_rethrow hsettled hframe hown hroom]
    rfl
  constructor
  · intro h
    exact h.unique (extends_body _ _) hthrow
  · rintro ⟨rfl, rfl⟩
    exact hthrow

/-- What is left behind by a clause that throws again: the frame that it ran in, if it ran. -/
def handled (scope : FrameId) (name : String) : Outcome → World → World
  | .failed failure, world => (world.addHandler scope name failure).2
  | _, world => world

private theorem under_throwable (kind : ErrorKind) : kind.Under .throwable :=
  ErrorKind.isA_iff_under.mp (by cases kind <;> rfl)

private theorem recovers_rethrow_iff {name : String} {thrown read : Position} {result : Outcome}
    (hsettled : outcome.Settled) (hroom : world.trace.size + 2 ≤ limit) :
    Recovers limit scope [⟨.throwable, name, [rethrow name thrown read]⟩]
        outcome world result after ↔
      result = outcome ∧ after = handled scope name outcome world := by
  constructor
  · intro h
    cases h with
    | value v => exact ⟨rfl, rfl⟩
    | returned v => exact ⟨rfl, rfl⟩
    | unmatched _ noClause =>
        exact absurd (under_throwable _) (noClause _ (List.mem_singleton.mpr rfl))
    | caught isClause noEarlier under ends =>
        obtain ⟨rfl, rfl, -⟩ : _ = [] ∧ _ = _ ∧ _ = [] := by
          simpa [List.cons_eq_append_iff] using isClause
        exact (ends_rethrow_iff (hsettled _ rfl) hroom thrown read).mp ends
  · rintro ⟨rfl, rfl⟩
    cases result with
    | value v => exact .value v _
    | returned v => exact .returned v _
    | failed failure =>
        have hclause : [(⟨.throwable, name, [rethrow name thrown read]⟩ : CatchClause Node)] =
            [] ++ ⟨.throwable, name, [rethrow name thrown read]⟩ :: [] := rfl
        exact .caught hclause (by simp) (under_throwable _)
          ((ends_rethrow_iff (hsettled failure rfl) hroom thrown read).mpr ⟨rfl, rfl⟩)

theorem try_rethrow_iff {nodes : List Node} {name title : String} {position : Option Position}
    {thrown read : Position} (hplaced : ∀ node ∈ nodes, node.position.isSome = true)
    (hroom : world.trace.size + 3 ≤ limit) :
    Ends limit (fun ev => ev.node scope ⟨.ofForm (.tryCatch nodes
        [⟨.throwable, name, [rethrow name thrown read]⟩] none), title, position⟩)
        world outcome after ↔
      ∃ last, Ends limit (fun ev => body ev scope .nil nodes)
          (world.entered ⟨title, position, scope⟩) outcome last ∧
        after = (handled scope name outcome last).back world := by
  have hcode (ev : Evaluator) (fuel : Nat) : code ev fuel scope (.ofForm (.tryCatch nodes
      [⟨.throwable, name, [rethrow name thrown read]⟩] none)) =
        tryCatch ev scope nodes [⟨.throwable, name, [rethrow name thrown read]⟩] none := rfl
  have hsize : (world.entered ⟨title, position, scope⟩).trace.size = world.trace.size + 1 :=
    Backtrace.size_push _ _
  have hsettled {outcome : Outcome} {last : World}
    (h : Ends limit (fun ev => body ev scope .nil nodes)
      (world.entered ⟨title, position, scope⟩) outcome last) :
      outcome.Settled ∧ last.trace.size + 2 ≤ limit := by
    obtain ⟨fuel, hends⟩ := h
    obtain ⟨hfailure, htrace⟩ :=
      body_settled hplaced (Backtrace.isFull_eq_false.mpr (by omega)) hends
    exact ⟨hfailure, by rw [htrace]; omega⟩
  rw [ends_node_iff hcode (Backtrace.isFull_eq_false.mpr (by omega))]
  simp only [ends_tryCatch_iff]
  constructor
  · rintro ⟨recovered, last, ⟨hends, hrecovers, hfinishes⟩, rfl, rfl⟩
    cases hfinishes
    obtain ⟨hfailure, hfits⟩ := hsettled hends
    obtain ⟨rfl, rfl⟩ := (recovers_rethrow_iff hfailure hfits).mp hrecovers
    rw [hfailure.annotate_eq]
    exact ⟨_, hends, rfl⟩
  · rintro ⟨last, hends, rfl⟩
    obtain ⟨hfailure, hfits⟩ := hsettled hends
    exact ⟨outcome, _, .intro hends ((recovers_rethrow_iff hfailure hfits).mpr ⟨rfl, rfl⟩)
      (.absent _ _), (hfailure.annotate_eq _ _).symm, rfl⟩

end Eval

/-! ## The form -/

theorem Form.firstProblemIn_append (forms others : List Form) :
    firstProblemIn (forms ++ others) = (firstProblemIn forms).or (firstProblemIn others) := by
  induction forms with
  | nil => simp [firstProblemIn]
  | cons form forms ih => cases hform : form.firstProblem <;> simp [firstProblemIn, hform, ih]

theorem Definitions.BuiltInAt.compileOperator_form {defs : Definitions} {form : SpecialForm}
    (h : defs.BuiltInAt form.name) {inner : FormCompiler} {arguments : List Form}
    {position : Position} {parameters : BuiltIn} {count last : Nat}
    (hform : Special.compile inner defs form arguments position count = .ok parameters last) :
    compileOperator inner defs form.name arguments position count =
      .ok (.ofForm parameters) last := by
  unfold compileOperator
  rw [h.form]
  exact Eval.bind_eq_ok_iff.mpr ⟨parameters, last, hform, rfl⟩

/-- A form that reads (CATCH Throwable name (THROW name)), wherever its parts stand. -/
inductive Form.Rethrows (name : String) : Form → Prop where
  | intro (position head kind variableName thrown throwHead read : Position) :
      Rethrows name (.ofItems [.ofSymbol "CATCH" head, .ofSymbol "Throwable" kind,
        .ofSymbol name variableName,
        .ofItems [.ofSymbol "THROW" throwHead, .ofSymbol name read] thrown] position)

namespace Form.Rethrows

open Compile

variable {name : String} {clause : Form} {defs : Definitions}

theorem isClause (h : clause.Rethrows name) : clause.IsClause .catch := by
  cases h with
  | intro =>
      have hname : Text.sameName "CATCH" ClauseKind.catch.name = true := by decide +kernel
      exact ⟨_, _, "CATCH", rfl, rfl, hname⟩

theorem firstProblem (h : clause.Rethrows name) : clause.firstProblem = none := by
  cases h with
  | intro => simp [ofItems, ofSymbol, Form.firstProblem, firstProblemIn]

private theorem splits (h : clause.Rethrows name) {forms : List Form}
    (hforms : ∀ form ∈ forms, ∀ kind, ¬form.IsClause kind) :
    splitClauses (forms ++ [clause]) = .ok ⟨forms, [clause], none⟩ := by
  rw [splitClauses_eq_ok_iff]
  refine ⟨by simp, hforms, ?_, by simp⟩
  intro form hform
  obtain rfl := List.mem_singleton.mp hform
  exact h.isClause

theorem compiles (h : clause.Rethrows name) (hthrow : defs.BuiltInAt SpecialForm.throwForm.name) :
    ∃ thrown read, ∀ count, Special.catchClause (compileForm defs) clause count =
      .ok ⟨.throwable, name, [Eval.rethrow name thrown read]⟩ count := by
  cases h with
  | intro position head kind variableName thrown throwHead read =>
      refine ⟨thrown, read, fun count => ?_⟩
      have hkind : ErrorKind.ofName? "Throwable" = some .throwable := by decide +kernel
      have hread : compileForm defs (.ofSymbol name read) count =
          .ok ⟨.readVariable name, name, some read⟩ count := by
        rw [compileForm_eq]
        rfl
      have hoperator : compileOperator (compileForm defs) defs SpecialForm.throwForm.name
          [.ofSymbol name read] thrown count =
            .ok (.ofForm (.throwWith .runtime ⟨.readVariable name, name, some read⟩)) count :=
        hthrow.compileOperator_form (Eval.bind_eq_ok_iff.mpr ⟨_, _, hread, rfl⟩)
      have hbody : all (compileForm defs) [.ofItems [.ofSymbol SpecialForm.throwForm.name throwHead,
          .ofSymbol name read] thrown] count = .ok [Eval.rethrow name thrown read] count := by
        exact Eval.bind_eq_ok_iff.mpr ⟨_, _, compileForm_call hoperator throwHead, rfl⟩
      have herror : errorKind (.ofSymbol "Throwable" kind) count = .ok .throwable count := by
        refine Eval.bind_eq_ok_iff.mpr ⟨"Throwable", count, rfl, ?_⟩
        simp only [hkind]
        rfl
      exact Eval.bind_eq_ok_iff.mpr ⟨_, _, herror, Eval.bind_eq_ok_iff.mpr ⟨name, count, rfl,
        Eval.bind_eq_ok_iff.mpr ⟨_, _, hbody, rfl⟩⟩⟩

private theorem compileForm_try (h : clause.Rethrows name)
    (htry : defs.BuiltInAt SpecialForm.tryForm.name)
    (hthrow : defs.BuiltInAt SpecialForm.throwForm.name) {forms : List Form}
    (hforms : ∀ form ∈ forms, ∀ kind, ¬form.IsClause kind) {nodes : List Node} {count last : Nat}
    (hnodes : all (compileForm defs) forms count = .ok nodes last) (head position : Position) :
    ∃ thrown read,
      compileForm defs (.ofItems (.ofSymbol "TRY" head :: (forms ++ [clause])) position)
      count = .ok ⟨.ofForm (.tryCatch nodes
        [⟨.throwable, name, [Eval.rethrow name thrown read]⟩] none), "TRY",
          some position⟩ last := by
  obtain ⟨thrown, read, hclause⟩ := h.compiles hthrow
  refine ⟨thrown, read, ?_⟩
  have hcatches : Special.catchClauses (compileForm defs) [clause] count =
      .ok [⟨.throwable, name, [Eval.rethrow name thrown read]⟩] count :=
    Eval.bind_eq_ok_iff.mpr ⟨_, _, hclause count, rfl⟩
  have hoperator : compileOperator (compileForm defs) defs SpecialForm.tryForm.name
    (forms ++ [clause])
      position count =
        .ok (.ofForm (.tryCatch nodes
          [⟨.throwable, name, [Eval.rethrow name thrown read]⟩] none)) last := by
    apply htry.compileOperator_form
    simp only [Special.compile, Special.tryForm, h.splits hforms]
    exact Eval.bind_eq_ok_iff.mpr ⟨_, _, rfl, Eval.bind_eq_ok_iff.mpr ⟨_, _, hcatches,
      Eval.bind_eq_ok_iff.mpr ⟨none, _, rfl, Eval.bind_eq_ok_iff.mpr ⟨_, _, hnodes, rfl⟩⟩⟩⟩
  exact compileForm_call hoperator head

end Form.Rethrows

/-- Catching whatever is thrown and throwing it again is the same as not catching it. If forms that
are no clauses compile, then so do they inside such a TRY, which ends in a frame if and only if they
end there, one after the other, inside the call of TRY. It ends with the same value, the same return
or the same failure, position and backtrace included, and leaves behind the frame of the clause
where that one ran. -/
theorem Eval.rethrow_transparent {defs : Definitions}
    (htry : defs.BuiltInAt SpecialForm.tryForm.name)
    (hthrow : defs.BuiltInAt SpecialForm.throwForm.name) {forms : List Form}
    (hforms : ∀ form ∈ forms, ∀ kind, ¬form.IsClause kind) {nodes : List Node} {count last : Nat}
    (hnodes : Compile.all (compileForm defs) forms count = .ok nodes last) {name : String}
    {clause : Form} (hclause : clause.Rethrows name) (head position : Position) :
    ∃ node,
      compileForm defs (.ofItems (.ofSymbol "TRY" head :: (forms ++ [clause])) position) count =
        .ok node last ∧
      (Form.firstProblemIn forms = none →
        compileChecked defs
          (.ofItems (.ofSymbol "TRY" head :: (forms ++ [clause])) position) count =
          .ok node last) ∧
      ∀ (limit : Nat) (scope : FrameId) (world : World), world.trace.size + 3 ≤ limit →
        ∀ outcome after, Ends limit (fun ev => ev.node scope node) world outcome after ↔
          ∃ ended, Ends limit (fun ev => body ev scope .nil nodes)
              (world.entered ⟨"TRY", some position, scope⟩) outcome ended ∧
            after = (handled scope name outcome ended).back world := by
  obtain ⟨thrown, read, hcompiled⟩ :=
    hclause.compileForm_try htry hthrow hforms hnodes head position
  refine ⟨_, hcompiled, ?_, ?_⟩
  · intro hproblems
    have hfree :
      Form.firstProblem (.ofItems (.ofSymbol "TRY" head :: (forms ++ [clause])) position) =
        none := by
      simp [Form.ofItems, Form.ofSymbol, Form.firstProblem, Form.firstProblemIn,
        Form.firstProblemIn_append, hproblems, hclause.firstProblem]
    rw [compileChecked, hfree]
    exact hcompiled
  · intro limit scope world hroom outcome after
    exact try_rethrow_iff (placed_of_all_compileForm hnodes) hroom

/-- A body that goes deeper than the limit allows. The clause still has room, and the failure keeps
the position of the innermost form that was entered. -/
theorem Eval.rethrow_transparent_overflow :
    let inside : Form := .ofItems [.ofSymbol "PROGN" .start, .ofSymbol "X" .start] ⟨0, 7, 7⟩
    let deep : Form := .ofItems [.ofSymbol "PROGN" .start, inside] .start
    let clause : Form := .ofItems [.ofSymbol "CATCH" .start, .ofSymbol "Throwable" .start,
      .ofSymbol "E" .start, .ofItems [.ofSymbol "THROW" .start, .ofSymbol "E" .start] .start] .start
    ∃ node failure after,
      compileForm .initial (.ofItems [.ofSymbol "TRY" .start, deep, clause] .start) 0 = .ok node 0 ∧
      Ends 3 (fun ev => ev.node World.root node) (.initial .raise) (.failed failure) after ∧
      failure.kind = .stackOverflow ∧ failure.position = some ⟨0, 7, 7⟩ ∧
        after.frames.size = 2 := by
  intro inside deep clause
  have hbuiltIn (name : String) : Definitions.initial.BuiltInAt name := ⟨rfl, fun _ _ => rfl⟩
  have hprogn {form : Form} {node : Node} (position : Position)
      (h : compileForm .initial form 0 = .ok node 0) :
      compileForm .initial (.ofItems [.ofSymbol SpecialForm.progn.name .start, form] position) 0 =
        .ok ⟨.ofForm (.sequence [node]), SpecialForm.progn.name, some position⟩ 0 := by
    apply compileForm_call
    apply (hbuiltIn _).compileOperator_form
    exact bind_eq_ok_iff.mpr ⟨_, _, bind_eq_ok_iff.mpr ⟨_, _, h, rfl⟩, rfl⟩
  have hread : compileForm .initial (.ofSymbol "X" .start) 0 =
      .ok ⟨.readVariable "X", "X", some .start⟩ 0 := by
    rw [compileForm_eq]
    rfl
  have hdeep : Compile.all (compileForm .initial) [deep] 0 = .ok _ 0 :=
    bind_eq_ok_iff.mpr ⟨_, _, hprogn .start (hprogn ⟨0, 7, 7⟩ hread), rfl⟩
  have hforms : ∀ form ∈ [deep], ∀ kind, ¬form.IsClause kind := by
    intro form hform
    obtain rfl := List.mem_singleton.mp hform
    rw [← Form.clauseKind?_eq_none_iff]
    decide +kernel
  obtain ⟨node, hcompiled, -, hends⟩ := rethrow_transparent (hbuiltIn _) (hbuiltIn _) hforms hdeep
    (show clause.Rethrows "E" from .intro _ _ _ _ _ _ _) .start .start
  exact ⟨node, _, _, hcompiled, (hends 3 World.root (.initial .raise) (by decide) _ _).mpr
    ⟨_, ⟨4, rfl⟩, rfl⟩, rfl, rfl, rfl⟩

end LispEngine
