import LispEngine.Proofs.Compilation
import Mathlib.Data.List.DropRight

/-!
# The grammar of TRY

The clauses among the parameters of TRY are found from the end, and are judged from the start.
Parameters are accepted exactly when they are forms that are no clauses, then CATCH clauses, then at
most one FINALLY clause. All others are refused at the first clause before the CATCH clauses at the
end.
-/

namespace LispEngine

/-! ## Clauses -/

def ClauseKind.name : ClauseKind → String
  | .catch => "CATCH"
  | .finally => "FINALLY"

namespace Form

/-- A list whose first item is the symbol of a clause, in any case of its letters. -/
def IsClause (kind : ClauseKind) (form : Form) : Prop :=
  ∃ head rest symbol, form.items? = some (head :: rest) ∧ head.symbol? = some symbol ∧
    Text.sameName symbol kind.name = true

private theorem clauseHead_eq_some_iff {form : Form} {kind : ClauseKind} :
    form.clauseHead = some kind.name ↔ form.IsClause kind := by
  have hname : Text.canonical kind.name = kind.name := by cases kind <;> decide +kernel
  unfold IsClause
  cases form with
  | leaf value position problem => simp [clauseHead, items?]
  | list items literal position problem =>
      cases items with
      | nil => simp [clauseHead, items?]
      | cons head rest => simp [clauseHead, items?, Text.sameName, hname]

theorem clauseKind?_eq_some_iff {form : Form} {kind : ClauseKind} :
    clauseKind? form = some kind ↔ form.IsClause kind := by
  rw [← clauseHead_eq_some_iff]
  unfold clauseKind?
  split
  · rename_i hhead
    cases kind <;> simp [hhead, ClauseKind.name]
  · rename_i hhead
    cases kind <;> simp [hhead, ClauseKind.name]
  · rename_i hcatch hfinally
    cases kind with
    | «catch» => simpa [ClauseKind.name] using hcatch
    | «finally» => simpa [ClauseKind.name] using hfinally

theorem clauseKind?_eq_none_iff {form : Form} :
    clauseKind? form = none ↔ ∀ kind, ¬form.IsClause kind := by
  simp only [← clauseKind?_eq_some_iff, Option.eq_none_iff_forall_ne_some, ne_eq]

theorem IsClause.unique {form : Form} {kind other : ClauseKind} (h : form.IsClause kind)
    (h' : form.IsClause other) : kind = other := by
  rw [← clauseKind?_eq_some_iff] at h h'
  exact Option.some.inj (h.symm.trans h')

end Form

/-! ## The clauses at the end -/

/-- A list of forms ends with CATCH clauses, as many as can be, and with a FINALLY clause after them
if there is one. -/
structure TrailingClauses (forms front run : List Form) (finalizer : Option Form) : Prop where
  joined : forms = front ++ run ++ finalizer.toList
  catches : ∀ form ∈ run, form.IsClause .catch
  longest : ∀ form, front.getLast? = some form → ¬form.IsClause .catch
  finals : ∀ form, finalizer = some form → form.IsClause .finally
  final : finalizer = none → ∀ form, forms.getLast? = some form → ¬form.IsClause .finally

namespace TrailingClauses

variable {forms front run : List Form} {finalizer : Option Form}

private theorem splitFinalizer_eq (h : TrailingClauses forms front run finalizer) :
    splitFinalizer forms = (front ++ run, finalizer) := by
  have hjoined := h.joined
  cases finalizer with
  | some clause =>
      have hclause := Form.clauseKind?_eq_some_iff.mpr (h.finals clause rfl)
      simp [hjoined, splitFinalizer, hclause]
  | none =>
      rw [Option.toList_none, List.append_nil] at hjoined
      unfold splitFinalizer
      cases hlast : forms.getLast? with
      | none => simp [← hjoined, List.getLast?_eq_none_iff.mp hlast]
      | some last =>
          have hclause := h.final rfl last hlast
          rw [← Form.clauseKind?_eq_some_iff] at hclause
          simp [hclause, hjoined]

private theorem splitCatches_eq (h : TrailingClauses forms front run finalizer) :
    splitCatches (front ++ run) = (front, run) := by
  have hrun : ∀ form ∈ run.reverse, (clauseKind? form == some .catch) = true := by
    intro form hform
    rw [beq_iff_eq, Form.clauseKind?_eq_some_iff]
    exact h.catches form (List.mem_reverse.mp hform)
  have hfront : front.reverse.takeWhile (clauseKind? · == some .catch) = [] := by
    cases hlast : front.reverse with
    | nil => rfl
    | cons last rest =>
        have hclause := h.longest last (by rw [← List.head?_reverse, hlast]; rfl)
        rw [← Form.clauseKind?_eq_some_iff, ← beq_iff_eq] at hclause
        exact List.takeWhile_cons_of_neg hclause
  have htaken : (front ++ run).reverse.takeWhile (clauseKind? · == some .catch) = run.reverse := by
    rw [List.reverse_append, List.takeWhile_append_of_pos hrun, hfront, List.append_nil]
  simp only [splitCatches, htaken]
  simp

theorem splitClauses_eq (h : TrailingClauses forms front run finalizer) :
    splitClauses forms =
      (firstMisplaced finalizer front).elim (.ok ⟨front, run, finalizer⟩) .error := by
  simp only [splitClauses, h.splitFinalizer_eq, h.splitCatches_eq]
  cases firstMisplaced finalizer front <;> rfl

end TrailingClauses

theorem exists_trailingClauses (forms : List Form) :
    ∃ front run finalizer, TrailingClauses forms front run finalizer := by
  -- whatever stands before the finalizer is cut at the longest run of CATCH clauses
  have hcut (rest : List Form) : ∃ front run, rest = front ++ run ∧
      (∀ form ∈ run, form.IsClause .catch) ∧
      ∀ form, front.getLast? = some form → ¬form.IsClause .catch := by
    refine ⟨rest.rdropWhile (clauseKind? · == some .catch),
      rest.rtakeWhile (clauseKind? · == some .catch), 
      List.rdropWhile_append_rtakeWhile.symm, ?_, ?_⟩
    · intro form hform
      have htest := List.mem_rtakeWhile_imp hform
      exact Form.clauseKind?_eq_some_iff.mp (beq_iff_eq.mp htest)
    · intro form hform hclause
      have hne := List.ne_nil_of_mem (List.mem_of_getLast? hform)
      have hlast := List.rdropWhile_last_not _ rest hne
      rw [List.getLast_of_getLast?_eq_some hform, beq_iff_eq, Form.clauseKind?_eq_some_iff] at hlast
      exact hlast hclause
  by_cases hfinal : ∃ form, forms.getLast? = some form ∧ form.IsClause .finally
  · obtain ⟨final, hlast, hclause⟩ := hfinal
    obtain ⟨rest, rfl⟩ := List.getLast?_eq_some_iff.mp hlast
    obtain ⟨front, run, rfl, hrun, hlongest⟩ := hcut rest
    exact ⟨front, run, some final, rfl, hrun, hlongest, by simpa using hclause, by simp⟩
  · obtain ⟨front, run, hjoined, hrun, hlongest⟩ := hcut forms
    refine ⟨front, run, none, by simpa using hjoined, hrun, hlongest, by simp, ?_⟩
    intro _ form hform hclause
    exact hfinal ⟨form, hform, hclause⟩

/-! ## Misplaced clauses -/

theorem firstMisplaced_eq_none_iff {finalizer : Option Form} {forms : List Form} :
    firstMisplaced finalizer forms = none ↔ ∀ form ∈ forms, ∀ kind, ¬form.IsClause kind := by
  induction forms with
  | nil => simp [firstMisplaced]
  | cons form forms ih =>
      rw [List.forall_mem_cons, ← ih, ← Form.clauseKind?_eq_none_iff]
      cases hkind : clauseKind? form <;> simp [firstMisplaced, hkind]

structure FirstClause (forms : List Form) (clause : Form) (kind : ClauseKind) : Prop where
  first : ∃ before after, forms = before ++ clause :: after ∧
    ∀ form ∈ before, ∀ kind, ¬form.IsClause kind
  isClause : clause.IsClause kind

theorem FirstClause.misplaced {forms : List Form} {clause : Form} {kind : ClauseKind}
    (h : FirstClause forms clause kind) (finalizer : Option Form) :
    firstMisplaced finalizer forms = some
      (.located clause.position (misplacement finalizer kind)) := by
  obtain ⟨before, after, rfl, hbefore⟩ := h.first
  have hkind := Form.clauseKind?_eq_some_iff.mpr h.isClause
  clear h
  induction before with
  | nil => simp [firstMisplaced, hkind]
  | cons form before ih =>
      obtain ⟨hform, hrest⟩ := List.forall_mem_cons.mp hbefore
      rw [← Form.clauseKind?_eq_none_iff] at hform
      simp only [List.cons_append, firstMisplaced, hform]
      exact ih hrest

theorem exists_firstClause {forms : List Form}
    (h : ¬∀ form ∈ forms, ∀ kind, ¬form.IsClause kind) :
    ∃ clause kind, FirstClause forms clause kind := by
  induction forms with
  | nil => simp at h
  | cons form forms ih =>
      cases hkind : clauseKind? form with
      | some kind =>
          exact ⟨form, kind, ⟨[], forms, rfl, by simp⟩, Form.clauseKind?_eq_some_iff.mp hkind⟩
      | none =>
          have hform := Form.clauseKind?_eq_none_iff.mp hkind
          rw [List.forall_mem_cons] at h
          obtain ⟨clause, kind, ⟨before, after, rfl, hbefore⟩, hclause⟩ :=
            ih fun hrest => h ⟨hform, hrest⟩
          exact ⟨clause, kind, ⟨form :: before, after, rfl,
            List.forall_mem_cons.mpr ⟨hform, hbefore⟩⟩, hclause⟩

/-! ## Accepted and refused parameters -/

structure TryClauses.Splits (clauses : TryClauses) (forms : List Form) : Prop where
  joined : forms = clauses.body ++ clauses.catches ++ clauses.finalizer.toList
  body : ∀ form ∈ clauses.body, ∀ kind, ¬form.IsClause kind
  catches : ∀ form ∈ clauses.catches, form.IsClause .catch
  finalizer : ∀ form, clauses.finalizer = some form → form.IsClause .finally

theorem TryClauses.Splits.trailing {clauses : TryClauses} {forms : List Form}
    (h : clauses.Splits forms) :
    TrailingClauses forms clauses.body clauses.catches clauses.finalizer where
  joined := h.joined
  catches := h.catches
  longest form hform := h.body form (List.mem_of_getLast? hform) .catch
  finals := h.finalizer
  final := by
    intro hnone form hlast hclause
    have hmem := List.mem_of_getLast? hlast
    rw [h.joined, hnone, Option.toList_none, List.append_nil, List.mem_append] at hmem
    rcases hmem with hbody | hcatch
    · exact h.body form hbody _ hclause
    · cases (h.catches form hcatch).unique hclause

theorem splitClauses_eq_ok_iff {forms : List Form} {clauses : TryClauses} :
    splitClauses forms = .ok clauses ↔ clauses.Splits forms := by
  constructor
  · intro hsplit
    obtain ⟨front, run, finalizer, htrailing⟩ := exists_trailingClauses forms
    rw [htrailing.splitClauses_eq] at hsplit
    cases hmisplaced : firstMisplaced finalizer front with
    | some failure =>
        rw [hmisplaced] at hsplit
        cases hsplit
    | none =>
        rw [hmisplaced] at hsplit
        cases hsplit
        exact ⟨htrailing.joined, firstMisplaced_eq_none_iff.mp hmisplaced, htrailing.catches,
          htrailing.finals⟩
  · intro hsplits
    rw [hsplits.trailing.splitClauses_eq, firstMisplaced_eq_none_iff.mpr hsplits.body]
    rfl

/-- The parameters of TRY are accepted if and only if they are forms that are no clauses, then CATCH
clauses, then at most one FINALLY clause, and there is one way to split them so. Others are refused
when they are compiled, at the first clause before the CATCH clauses at the end. -/
theorem splitClauses_grammatical (forms : List Form) :
    (∀ clauses, splitClauses forms = .ok clauses ↔ clauses.Splits forms) ∧
    (∀ clauses others : TryClauses, clauses.Splits forms → others.Splits forms → clauses = others) ∧
    ((¬∃ clauses : TryClauses, clauses.Splits forms) →
      ∃ front run finalizer clause kind failure, TrailingClauses forms front run finalizer ∧
        FirstClause front clause kind ∧ splitClauses forms = .error failure ∧
        failure = .located clause.position (misplacement finalizer kind) ∧
        failure.cause.category = .compile ∧ failure.kind = .compile) := by
  refine ⟨fun _ => splitClauses_eq_ok_iff, ?_, ?_⟩
  · intro clauses others hclauses hothers
    rw [← splitClauses_eq_ok_iff] at hclauses hothers
    exact Except.ok.inj (hclauses.symm.trans hothers)
  · intro hnone
    obtain ⟨front, run, finalizer, htrailing⟩ := exists_trailingClauses forms
    have hmisplaced : ¬∀ form ∈ front, ∀ kind, ¬form.IsClause kind := by
      intro hfront
      exact hnone ⟨⟨front, run, finalizer⟩, htrailing.joined, hfront, htrailing.catches,
        htrailing.finals⟩
    obtain ⟨clause, kind, hfirst⟩ := exists_firstClause hmisplaced
    obtain ⟨hcategory, hkind, -⟩ := misplacement_refusal finalizer kind
    refine ⟨front, run, finalizer, clause, kind, _, htrailing, hfirst, ?_, rfl, hcategory, hkind⟩
    rw [htrailing.splitClauses_eq, hfirst.misplaced]
    rfl

end LispEngine
