import LispEngine.Form

/-!
# The clauses of TRY

The parameters of TRY are forms to protect, then CATCH clauses, then at most one FINALLY clause.
-/

namespace LispEngine

inductive ClauseKind where
  | catch
  | finally
deriving DecidableEq, Repr

def clauseKind? (form : Form) : Option ClauseKind :=
  match form.clauseHead with
  | some "CATCH" => some .catch
  | some "FINALLY" => some .finally
  | _ => none

structure TryClauses where
  body : List Form
  catches : List Form
  finalizer : Option Form

/-- The forms before the longest run of CATCH clauses at the end, and that run. -/
def splitCatches (forms : List Form) : List Form × List Form :=
  let run := forms.reverse.takeWhile (clauseKind? · == some .catch)
  (forms.take (forms.length - run.length), run.reverse)

def splitFinalizer (forms : List Form) : List Form × Option Form :=
  match forms.getLast? with
  | some last =>
      if clauseKind? last == some .finally then (forms.dropLast, some last) else (forms, none)
  | none => ([], none)

def misplacement (finalizer : Option Form) : ClauseKind → Cause
  | .catch => .catchPlacement
  | .finally => if finalizer.isSome then .finallyRepeated else .finallyPlacement

def firstMisplaced (finalizer : Option Form) : List Form → Option Failure
  | [] => none
  | form :: forms =>
      match clauseKind? form with
      | some kind => some (.located form.position (misplacement finalizer kind))
      | none => firstMisplaced finalizer forms

def splitClauses (parameters : List Form) : Except Failure TryClauses :=
  let (front, finalizer) := splitFinalizer parameters
  let (body, catches) := splitCatches front
  match firstMisplaced finalizer body with
  | some failure => .error failure
  | none => .ok { body, catches, finalizer }

end LispEngine
