import LispEngine.Proofs.Backtrace
import LispEngine.Proofs.Fuel

/-!
# Protected evaluations

The rules of TRY: which clause takes which failure, where its body runs, and what the finalizer
makes of the outcome. A node evaluates by these rules and in no other way.
-/

namespace LispEngine

/-! ## Kinds below a kind -/

inductive ErrorKind.Under : ErrorKind → ErrorKind → Prop where
  | self (kind : ErrorKind) : Under kind kind
  | parent {kind above ancestor : ErrorKind} (isParent : kind.parent = some above)
      (under : Under above ancestor) : Under kind ancestor

namespace ErrorKind

private theorem lineage_eq_cons {kind above : ErrorKind} (h : kind.parent = some above) :
    kind.lineage = kind :: above.lineage := by
  cases kind <;> cases h <;> rfl

private theorem under_of_mem_lineageWithin {height : Nat} {kind ancestor : ErrorKind}
    (h : ancestor ∈ lineageWithin height kind) : kind.Under ancestor := by
  -- one kind up the tree is one kind less in the list
  induction height generalizing kind with
  | zero => cases h
  | succ height ih =>
      rcases List.mem_cons.mp h with rfl | habove
      · exact .self _
      · cases hparent : kind.parent with
        | none =>
            rw [hparent] at habove
            cases habove
        | some above =>
            rw [hparent] at habove
            exact .parent hparent (ih habove)

theorem Under.isA {kind ancestor : ErrorKind} (h : kind.Under ancestor) :
    kind.isA ancestor = true := by
  unfold ErrorKind.isA
  induction h with
  | self kind => simp [lineage, lineageWithin]
  | parent isParent _ ih =>
      rw [lineage_eq_cons isParent, List.contains_cons, ih, Bool.or_true]

theorem isA_iff_under {kind ancestor : ErrorKind} :
    kind.isA ancestor = true ↔ kind.Under ancestor :=
  ⟨fun h => under_of_mem_lineageWithin (List.contains_iff_mem.mp h), Under.isA⟩

end ErrorKind

/-! ## Evaluations that end -/

inductive Outcome where
  | value (v : Value)
  | failed (failure : Failure)
  | returned (v : Value)

namespace Outcome

def observed : Outcome → Except Signal Value
  | value v => .ok v
  | failed failure => .error (.failed failure)
  | returned v => .error (.returned v)

def result : Outcome → World → EStateM.Result Signal World Value
  | value v, world => .ok v world
  | failed failure, world => .error (.failed failure) world
  | returned v, world => .error (.returned v) world

def annotate (position : Option Position) (trace : Backtrace) : Outcome → Outcome
  | failed failure => failed (failure.annotate position trace)
  | outcome => outcome

variable {outcome : Outcome} {world after : World}

theorem resume_observed : Eval.resume outcome.observed world = outcome.result world := by
  cases outcome with
  | value v => rfl
  | failed failure => rfl
  | returned v => rfl

theorem observe_eq {action : Eval Value} (h : action world = outcome.result after) :
    Eval.observe action world = .ok outcome.observed after := by
  unfold Eval.observe
  rw [h]
  cases outcome with
  | value v => rfl
  | failed failure => rfl
  | returned v => rfl

theorem result_ne_exhausted {other : World} : outcome.result world ≠ .error .exhausted other := by
  cases outcome with
  | value v => simp [result]
  | failed failure => simp [result]
  | returned v => simp [result]

theorem result_inj {outcome' : Outcome} {world' : World} :
    outcome.result world = outcome'.result world' ↔ outcome = outcome' ∧ world = world' := by
  cases outcome <;> cases outcome' <;> simp [result]

theorem exhausted_or_result (ended : EStateM.Result Signal World Value) :
    (∃ after, ended = .error .exhausted after) ∨
      ∃ (outcome : Outcome) (after : World), ended = outcome.result after := by
  cases ended with
  | ok v after => exact .inr ⟨.value v, after, rfl⟩
  | error signal after =>
      cases signal with
      | failed failure => exact .inr ⟨.failed failure, after, rfl⟩
      | returned v => exact .inr ⟨.returned v, after, rfl⟩
      | exhausted => exact .inl ⟨after, rfl⟩

end Outcome

namespace Eval

/-- What is done with an evaluator ends with an outcome, given enough steps. -/
def Ends (limit : Nat) (action : Evaluator → Eval Value) (world : World) (outcome : Outcome)
    (after : World) : Prop :=
  ∃ fuel, action (evaluator limit fuel) world = outcome.result after

variable {limit : Nat} {scope : FrameId} {world after : World} {outcome result : Outcome}

theorem Extends.add_fuel {action : Evaluator → Eval Value} (h : Extends action) {fuel : Nat}
    (hends : action (evaluator limit fuel) world = outcome.result after) (extra : Nat) :
    action (evaluator limit (fuel + extra)) world = outcome.result after := by
  rcases h (evaluator_refines limit fuel extra) world with hsame | ⟨cut, hcut, -⟩
  · rw [← hsame, hends]
  · exact absurd (hends.symm.trans hcut) Outcome.result_ne_exhausted

theorem ends_resume (outcome : Outcome) :
    Ends limit (fun _ => resume outcome.observed) world result after ↔
      result = outcome ∧ after = world := by
  unfold Ends
  simp only [Outcome.resume_observed, exists_const]
  rw [Outcome.result_inj]
  exact ⟨fun h => ⟨h.1.symm, h.2.symm⟩, fun h => ⟨h.1.symm, h.2.symm⟩⟩

theorem ends_observe_bind {first : Evaluator → Eval Value}
    {next : Evaluator → Except Signal Value → Eval Value} (hfirst : Extends first)
    (hnext : ∀ observed, Extends fun ev => next ev observed) :
    Ends limit (fun ev => observe (first ev) >>= next ev) world result after ↔
      ∃ (outcome : Outcome) (middle : World), Ends limit first world outcome middle ∧
        Ends limit (fun ev => next ev outcome.observed) middle result after := by
  have hbind {fuel : Nat} {outcome : Outcome} {middle : World}
      (h : first (evaluator limit fuel) world = outcome.result middle) :
      (observe (first (evaluator limit fuel)) >>= next (evaluator limit fuel)) world =
        next (evaluator limit fuel) outcome.observed middle := by
    change EStateM.bind _ _ _ = _
    rw [EStateM.bind, Outcome.observe_eq h]
  constructor
  · rintro ⟨fuel, hends⟩
    rcases Outcome.exhausted_or_result (first (evaluator limit fuel) world) with
      ⟨cut, hcut⟩ | ⟨outcome, middle, hended⟩
    · have hcut' : (observe (first (evaluator limit fuel)) >>= next (evaluator limit fuel)) world =
          .error .exhausted cut := by
        change EStateM.bind (observe _) _ _ = _
        simp only [EStateM.bind, observe, hcut]
      exact absurd (hends.symm.trans hcut') Outcome.result_ne_exhausted
    · exact ⟨outcome, middle, ⟨fuel, hended⟩, fuel, (hbind hended).symm.trans hends⟩
  · rintro ⟨outcome, middle, ⟨fuel, hended⟩, fuel', hrest⟩
    -- the steps of both are enough for either
    refine ⟨fuel + fuel', ?_⟩
    change (observe (first _) >>= next _) world = _
    rw [hbind (hfirst.add_fuel hended fuel'), Nat.add_comm]
    exact (hnext outcome.observed).add_fuel hrest fuel

end Eval

/-! ## Clauses and finalizers -/

namespace Eval

/-- What the clauses make of the outcome of a body. The first clause for a kind above that of a
failure takes it, and its body runs below the frame of the protected body. -/
inductive Recovers (limit : Nat) (scope : FrameId) (catches : List (CatchClause Node)) :
    Outcome → World → Outcome → World → Prop where
  | value (v : Value) (world : World) :
      Recovers limit scope catches (.value v) world (.value v) world
  | returned (v : Value) (world : World) :
      Recovers limit scope catches (.returned v) world (.returned v) world
  | unmatched {failure : Failure} (world : World)
      (noClause : ∀ clause ∈ catches, ¬ failure.kind.Under clause.kind) :
      Recovers limit scope catches (.failed failure) world (.failed failure) world
  | caught {failure : Failure} {clause : CatchClause Node} {earlier later : List (CatchClause Node)}
      {world after : World} {outcome : Outcome} (isClause : catches = earlier ++ clause :: later)
      (noEarlier : ∀ other ∈ earlier, ¬ failure.kind.Under other.kind)
      (under : failure.kind.Under clause.kind)
      (ends : Ends limit
        (fun ev => body ev (world.addHandler scope clause.variableName failure).1 .nil clause.body)
        (world.addHandler scope clause.variableName failure).2 outcome after) :
      Recovers limit scope catches (.failed failure) world outcome after

inductive Finishes (limit : Nat) (scope : FrameId) :
    Option (List Node) → Outcome → World → Outcome → World → Prop where
  | absent (outcome : Outcome) (world : World) :
      Finishes limit scope none outcome world outcome world
  | completed {cleanup : List Node} (outcome : Outcome) {world after : World} {v : Value}
      (ends : Ends limit (fun ev => body ev scope .nil cleanup) world (.value v) after) :
      Finishes limit scope (some cleanup) outcome world outcome after
  | failed {cleanup : List Node} (outcome : Outcome) {world after : World} {failure : Failure}
      (ends : Ends limit (fun ev => body ev scope .nil cleanup) world (.failed failure) after) :
      Finishes limit scope (some cleanup) outcome world (.failed failure) after
  | returned {cleanup : List Node} (outcome : Outcome) {world after : World} {v : Value}
      (ends : Ends limit (fun ev => body ev scope .nil cleanup) world (.returned v) after) :
      Finishes limit scope (some cleanup) outcome world (.returned v) after

/-- A body runs, then a clause for its failure, if any, and then the finalizer. -/
inductive Protects (limit : Nat) (scope : FrameId) (nodes : List Node)
    (catches : List (CatchClause Node)) (finalizer : Option (List Node)) (world : World)
    (result : Outcome) (last : World) : Prop where
  | intro {outcome recovered : Outcome} {after handled : World}
      (ends : Ends limit (fun ev => body ev scope .nil nodes) world outcome after)
      (recovers : Recovers limit scope catches outcome after recovered handled)
      (finishes : Finishes limit scope finalizer recovered handled result last)

theorem extends_body (scope : FrameId) (nodes : List Node) :
    Extends fun ev => body ev scope .nil nodes :=
  fun _ _ _ h => body_refines h scope .nil nodes

theorem extends_recover (scope : FrameId) (catches : List (CatchClause Node))
    (observed : Except Signal Value) : Extends fun ev => recover ev scope catches observed :=
  fun _ _ _ h => recover_refines h scope catches observed

theorem extends_finish (scope : FrameId) (finalizer : Option (List Node))
    (observed : Except Signal Value) : Extends fun ev => finish ev scope finalizer observed :=
  fun _ _ _ h => finish_refines h scope finalizer observed

variable {limit : Nat} {scope : FrameId} {catches : List (CatchClause Node)}
  {finalizer : Option (List Node)} {world after : World} {outcome result : Outcome}

private theorem find?_clause_iff {kind : ErrorKind} {clause : CatchClause Node} :
    catches.find? (fun clause => kind.isA clause.kind) = some clause ↔
      kind.Under clause.kind ∧ ∃ earlier later, catches = earlier ++ clause :: later ∧
        ∀ other ∈ earlier, ¬ kind.Under other.kind := by
  simp [List.find?_eq_some_iff_append, ← ErrorKind.isA_iff_under]

private theorem find?_noClause_iff {kind : ErrorKind} :
    catches.find? (fun clause => kind.isA clause.kind) = none ↔
      ∀ clause ∈ catches, ¬ kind.Under clause.kind := by
  simp [List.find?_eq_none, ← ErrorKind.isA_iff_under]

private theorem ends_handle_iff {failure : Failure} :
    Ends limit (fun ev => handle ev scope catches failure) world result after ↔
      Recovers limit scope catches (.failed failure) world result after := by
  constructor
  · intro h
    cases hfind : catches.find? (fun clause => failure.kind.isA clause.kind) with
    | none =>
        obtain ⟨fuel, hends⟩ := h
        have hsame : (Outcome.failed failure).result world = result.result after :=
          (handle_none hfind world).symm.trans hends
        obtain ⟨rfl, rfl⟩ := Outcome.result_inj.mp hsame
        exact .unmatched world (find?_noClause_iff.mp hfind)
    | some clause =>
        obtain ⟨under, earlier, later, isClause, noEarlier⟩ := find?_clause_iff.mp hfind
        obtain ⟨fuel, hends⟩ := h
        exact .caught isClause noEarlier under ⟨fuel, (handle_some hfind world).symm.trans hends⟩
  · intro h
    cases h with
    | unmatched _ noClause => exact ⟨0, handle_none (find?_noClause_iff.mpr noClause) world⟩
    | caught isClause noEarlier under ends =>
        have hfind := find?_clause_iff.mpr ⟨under, _, _, isClause, noEarlier⟩
        obtain ⟨fuel, hends⟩ := ends
        exact ⟨fuel, (handle_some hfind world).trans hends⟩

private theorem ends_recover_iff :
    Ends limit (fun ev => recover ev scope catches outcome.observed) world result after ↔
      Recovers limit scope catches outcome world result after := by
  cases outcome with
  | failed failure => exact ends_handle_iff
  | value v =>
      refine (ends_resume (.value v)).trans ⟨?_, ?_⟩
      · rintro ⟨rfl, rfl⟩
        exact .value v _
      · rintro ⟨⟩
        exact ⟨rfl, rfl⟩
  | returned v =>
      refine (ends_resume (.returned v)).trans ⟨?_, ?_⟩
      · rintro ⟨rfl, rfl⟩
        exact .returned v _
      · rintro ⟨⟩
        exact ⟨rfl, rfl⟩

private theorem finish_some {ev : Evaluator} {cleanup : List Node} {own : Outcome} :
    body ev scope .nil cleanup world = own.result after →
      finish ev scope (some cleanup) outcome.observed world =
        match own with
        | .value _ => outcome.result after
        | own => own.result after := by
  intro h
  change EStateM.bind _ _ _ = _
  rw [EStateM.bind, h]
  cases own with
  | value v => exact Outcome.resume_observed
  | failed failure => rfl
  | returned v => rfl

private theorem ends_finish_iff :
    Ends limit (fun ev => finish ev scope finalizer outcome.observed) world result after ↔
      Finishes limit scope finalizer outcome world result after := by
  cases finalizer with
  | none =>
      refine (ends_resume outcome).trans ⟨?_, ?_⟩
      · rintro ⟨rfl, rfl⟩
        exact .absent _ _
      · rintro ⟨⟩
        exact ⟨rfl, rfl⟩
  | some cleanup =>
      constructor
      · rintro ⟨fuel, hends⟩
        rcases Outcome.exhausted_or_result
          (body (evaluator limit fuel) scope .nil cleanup world) with
          ⟨cut, hcut⟩ | ⟨own, middle, hended⟩
        · have hcut' : finish (evaluator limit fuel) scope (some cleanup) outcome.observed world =
              .error .exhausted cut := by
            change EStateM.bind _ _ _ = _
            rw [EStateM.bind, hcut]
          exact absurd (hends.symm.trans hcut') Outcome.result_ne_exhausted
        · have hsame := (finish_some hended).symm.trans hends
          cases own with
          | value v =>
              obtain ⟨rfl, rfl⟩ := Outcome.result_inj.mp hsame
              exact .completed _ ⟨fuel, hended⟩
          | failed failure =>
              obtain ⟨rfl, rfl⟩ := Outcome.result_inj.mp hsame
              exact .failed _ ⟨fuel, hended⟩
          | returned v =>
              obtain ⟨rfl, rfl⟩ := Outcome.result_inj.mp hsame
              exact .returned _ ⟨fuel, hended⟩
      · intro h
        cases h with
        | completed _ ends | failed _ ends | returned _ ends =>
            obtain ⟨fuel, hended⟩ := ends
            exact ⟨fuel, finish_some hended⟩

theorem ends_tryCatch_iff {nodes : List Node} :
    Ends limit (fun ev => tryCatch ev scope nodes catches finalizer) world result after ↔
      Protects limit scope nodes catches finalizer world result after := by
  have hbody := extends_body scope nodes
  have hrecover := extends_recover scope catches
  have hprotected : Extends fun ev =>
    observe (body ev scope .nil nodes) >>= recover ev scope catches :=
    fun _ _ _ h => (hbody h).observe.bind fun observed => hrecover observed h
  simp only [tryCatch_eq]
  rw [ends_observe_bind hprotected (extends_finish scope finalizer)]
  simp only [ends_observe_bind hbody hrecover, ends_recover_iff, ends_finish_iff]
  constructor
  · rintro ⟨recovered, handled, ⟨outcome, after, ends, recovers⟩, finishes⟩
    exact ⟨ends, recovers, finishes⟩
  · rintro ⟨ends, recovers, finishes⟩
    exact ⟨_, _, ⟨_, _, ends, recovers⟩, finishes⟩

/-! ## Nodes -/

theorem code_trace {fuel steps : Nat} {node : Node}
    (h : code (evaluator limit fuel) steps scope node.code world = outcome.result after) :
    after.trace = world.trace := by
  have hsound := Contract.depth_sound limit False
  have hev : (Contract.depth limit False).Evaluates (evaluator limit fuel) world.trace := by
    rw [← evaluatorUntil_never]
    exact hsound.evaluatorUntil_evaluates (fun _ _ h => h) trivial
  have hkeeps : (Contract.depth limit False).Keeps (fun _ => True) (fun _ _ => True) world
      (code (evaluator limit fuel) steps scope node.code) :=
    hsound.code_keeps hev steps ⟨False.elim, rfl⟩ trivial trivial
  unfold Contract.Keeps at hkeeps
  rw [h] at hkeeps
  cases outcome with
  | value v => exact hkeeps.1.trace
  | failed failure => exact hkeeps.1.trace
  | returned v => exact hkeeps.1.trace

theorem step_room {ev : Evaluator} {fuel : Nat} {node : Node}
    (hroom : world.trace.isFull limit = false) :
    step ev limit fuel scope node world =
      EStateM.bind (observe (code ev fuel scope node.code)) (leave node.position)
        (world.entered ⟨node.name, node.position, scope⟩) := by
  have henter : enter limit ⟨node.name, node.position, scope⟩ world =
      .ok () (world.entered ⟨node.name, node.position, scope⟩) := by
    simp [enter, hroom, World.entered]
  change EStateM.bind (enter limit _) _ world = _
  rw [EStateM.bind, henter]
  rfl

theorem step_eq_result {fuel : Nat} (steps : Nat) {node : Node} {last : World}
    (hroom : world.trace.isFull limit = false)
    (h : code (evaluator limit fuel) steps scope node.code
      (world.entered ⟨node.name, node.position, scope⟩) = outcome.result last) :
    step (evaluator limit fuel) limit steps scope node world =
      (outcome.annotate node.position (world.trace.push ⟨node.name, node.position, scope⟩)).result
        (last.back world) := by
  have htrace : last.trace = world.trace.push ⟨node.name, node.position, scope⟩ := code_trace h
  have hback : { last with trace := last.trace.pop } = last.back world := by
    rw [htrace, Backtrace.pop_push]
    rfl
  rw [step_room hroom, EStateM.bind, Outcome.observe_eq h, ← htrace, ← hback]
  cases outcome with
  | value v => rfl
  | failed failure => rfl
  | returned v => rfl

theorem ends_node_iff {node : Node} {action : Evaluator → Eval Value}
    (hcode : ∀ ev fuel, code ev fuel scope node.code = action ev)
    (hroom : world.trace.isFull limit = false) :
    Ends limit (fun ev => ev.node scope node) world result after ↔
      ∃ outcome last,
        Ends limit action (world.entered ⟨node.name, node.position, scope⟩) outcome last ∧
        result = outcome.annotate node.position
          (world.trace.push ⟨node.name, node.position, scope⟩) ∧
        after = last.back world := by
  have hstep {fuel : Nat} {outcome : Outcome} {last : World}
      (h : action (evaluator limit fuel) (world.entered ⟨node.name, node.position, scope⟩) =
        outcome.result last) :=
    step_eq_result fuel hroom ((congrFun (hcode _ fuel) _).trans h)
  constructor
  · rintro ⟨fuel, hends⟩
    cases fuel with
    | zero => exact absurd hends.symm Outcome.result_ne_exhausted
    | succ fuel =>
        rcases Outcome.exhausted_or_result (action (evaluator limit fuel)
          (world.entered ⟨node.name, node.position, scope⟩)) with
          ⟨cut, hcut⟩ | ⟨outcome, last, hended⟩
        · have hcut' : step (evaluator limit fuel) limit fuel scope node world =
              .error .exhausted cut := by
            rw [step_room hroom, EStateM.bind, hcode, observe, hcut]
          exact absurd (hends.symm.trans hcut') Outcome.result_ne_exhausted
        · obtain ⟨rfl, rfl⟩ := Outcome.result_inj.mp (hends.symm.trans (hstep hended))
          exact ⟨outcome, last, ⟨fuel, hended⟩, rfl, rfl⟩
  · rintro ⟨outcome, last, ⟨fuel, hended⟩, rfl, rfl⟩
    exact ⟨fuel + 1, hstep hended⟩

/-- A TRY node that has room for its own call ends by the rules for protected bodies, and in no
other way. -/
theorem try_ends_iff {nodes : List Node} (name : String) (position : Option Position)
    (hroom : world.trace.isFull limit = false) :
    Ends limit
        (fun ev => ev.node scope ⟨.ofForm (.tryCatch nodes catches finalizer), name, position⟩)
        world result after ↔
      ∃ outcome last,
        Protects limit scope nodes catches finalizer (world.entered ⟨name, position, scope⟩) outcome
          last ∧
        result = outcome.annotate position (world.trace.push ⟨name, position, scope⟩) ∧
        after = last.back world := by
  have hcode (ev : Evaluator) (fuel : Nat) :
      code ev fuel scope (.ofForm (.tryCatch nodes catches finalizer)) =
        tryCatch ev scope nodes catches finalizer := rfl
  rw [ends_node_iff hcode hroom]
  simp only [ends_tryCatch_iff]

/-- The second of three clauses takes the failure of an unbound variable, and its value outlives the
finalizer. -/
theorem try_ends_iff_second_clause :
    let unbound : Node := ⟨.readVariable "X", "X", some .start⟩
    let one : Node := .ofValue (.int 1) none
    let two : Node := .ofValue (.int 2) none
    let node : Node := ⟨.ofForm (.tryCatch [unbound]
      [⟨.arithmetic, "E", [two]⟩, ⟨.runtime, "E", [one]⟩, ⟨.throwable, "E", [two]⟩] (some [two])),
      "TRY", some .start⟩
    (World.initial .raise).trace.isFull 2 = false ∧
      ∃ after, Ends 2 (fun ev => ev.node World.root node) (.initial .raise)
        (.value (.int 1)) after := by
  intro unbound one two node
  have hroom : (World.initial .raise).trace.isFull 2 = false := rfl
  have hclauses : [⟨.arithmetic, "E", [two]⟩, ⟨.runtime, "E", [one]⟩, ⟨.throwable, "E", [two]⟩] =
      [(⟨.arithmetic, "E", [two]⟩ : CatchClause Node)] ++ ⟨.runtime, "E", [one]⟩ ::
        [⟨.throwable, "E", [two]⟩] := rfl
  have hearlier : ∀ other ∈ [(⟨.arithmetic, "E", [two]⟩ : CatchClause Node)],
      ¬ ErrorKind.unboundVariable.Under other.kind := by
    rintro other hother hunder
    obtain rfl := List.mem_singleton.mp hother
    exact absurd hunder.isA (by decide)
  have hunder : ErrorKind.unboundVariable.Under .runtime := .parent rfl (.self _)
  refine ⟨hroom, _, (try_ends_iff "TRY" (some .start) hroom).mpr
    ⟨.value (.int 1), _, .intro ⟨2, rfl⟩ (.caught hclauses ?_ ?_ ⟨1, rfl⟩)
      (.completed _ ⟨1, rfl⟩), rfl, rfl⟩⟩
  · exact hearlier
  · exact hunder

end Eval

end LispEngine
