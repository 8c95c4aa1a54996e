import LispEngine.Eval.Node
import LispEngine.Proofs.Likeness
import LispEngine.Proofs.Promotions

/-!
# Values with other scopes

A caught failure is a value, and it keeps the evaluations that were in progress, each with the frame
in which it ran. The language never looks at these frames: rescoping a value, that is putting other
frames in their places, changes nothing that a program can find out. Two values are alike, up to a
map of frames, if rescoping makes them equal.
-/

namespace LispEngine

/-! ## Rescoping -/

def Call.rescope (f : FrameId → FrameId) (call : Call) : Call := { call with scope := f call.scope }

def Backtrace.rescope (f : FrameId → FrameId) (trace : Backtrace) : Backtrace :=
  ⟨trace.calls.map (·.rescope f)⟩

mutual

def Value.rescope (f : FrameId → FrameId) : Value → Value
  | .list items => .list (Value.rescopeItems f items)
  | .map entries => .map (Value.rescopeEntries f entries)
  | .error id failure => .error id (FailureOf.rescope f failure)
  | .object id typeName (some elements) =>
      .object id typeName (some ⟨elements.size, fun index => (elements.get index).rescope f⟩)
  | v => v

def Value.rescopeItems (f : FrameId → FrameId) : List Value → List Value
  | [] => []
  | v :: vs => v.rescope f :: Value.rescopeItems f vs

def Value.rescopeEntries (f : FrameId → FrameId) : List (Key × Value) → List (Key × Value)
  | [] => []
  | (key, v) :: entries => (key, v.rescope f) :: Value.rescopeEntries f entries

def CauseOf.rescope (f : FrameId → FrameId) : CauseOf Value → CauseOf Value
  | .thrown kind message (some v) => .thrown kind message (some (v.rescope f))
  | cause => cause

def FailureOf.rescope (f : FrameId → FrameId) : FailureOf Value → FailureOf Value
  | ⟨cause, position, trace⟩ => ⟨CauseOf.rescope f cause, position, trace.map (·.rescope f)⟩

end

def Signal.rescope (f : FrameId → FrameId) : Signal → Signal
  | .failed failure => .failed (failure.rescope f)
  | .returned v => .returned (v.rescope f)
  | .exhausted => .exhausted

variable {f : FrameId → FrameId}

namespace Backtrace

@[simp] theorem size_rescope (trace : Backtrace) : (trace.rescope f).size = trace.size := by
  simp [rescope, size]

@[simp] theorem rescope_push (trace : Backtrace) (call : Call) :
    (trace.push call).rescope f = (trace.rescope f).push (call.rescope f) := by
  simp [rescope, push]

@[simp] theorem rescope_pop (trace : Backtrace) : trace.pop.rescope f = (trace.rescope f).pop := by
  simp [rescope, pop]

end Backtrace

namespace Value

@[simp] theorem rescopeItems_eq (items : List Value) :
    rescopeItems f items = items.map (rescope f) := by
  induction items with
  | nil => rfl
  | cons v items ih => simp [rescopeItems, ih]

@[simp] theorem rescopeEntries_eq (entries : List (Key × Value)) :
    rescopeEntries f entries = entries.map fun entry => (entry.1, entry.2.rescope f) := by
  induction entries with
  | nil => rfl
  | cons entry entries ih => simp [rescopeEntries, ih]

@[simp] theorem rescope_list (items : List Value) :
    (list items).rescope f = list (items.map (rescope f)) := by
  simp [rescope]

@[simp] theorem rescope_error (id : Nat) (failure : Failure) :
    (error id failure).rescope f = error id (failure.rescope f) := by
  simp [rescope]

@[simp] theorem rescope_number (n : Number) : (number n).rescope f = number n := by
  simp [rescope]

end Value

@[simp] theorem Signal.rescope_failed (failure : Failure) :
    (failed failure).rescope f = failed (failure.rescope f) := rfl

@[simp] theorem Signal.rescope_returned (v : Value) :
    (returned v).rescope f = returned (v.rescope f) := rfl

namespace CauseOf

theorem bare_or_thrown (cause : Cause) : (cause.payload = none ∧ ∀ f, cause.rescope f = cause) ∨
    ∃ kind message v, cause = thrown kind message (some v) := by
  cases cause with
  | thrown kind message payload =>
      cases payload with
      | none => exact .inl ⟨rfl, fun _ => rfl⟩
      | some v => exact .inr ⟨kind, message, v, rfl⟩
  | _ => exact .inl ⟨rfl, fun _ => rfl⟩

@[simp] theorem kind_rescope (cause : Cause) : (cause.rescope f).kind = cause.kind := by
  rcases cause.bare_or_thrown with ⟨-, heq⟩ | ⟨kind, message, v, rfl⟩
  · rw [heq]
  · rfl

@[simp] theorem message_rescope (cause : Cause) : (cause.rescope f).message = cause.message := by
  rcases cause.bare_or_thrown with ⟨-, heq⟩ | ⟨kind, message, v, rfl⟩
  · rw [heq]
  · rfl

@[simp] theorem display_rescope (cause : Cause) : (cause.rescope f).display = cause.display := by
  rcases cause.bare_or_thrown with ⟨-, heq⟩ | ⟨kind, message, v, rfl⟩
  · rw [heq]
  · rfl

@[simp] theorem payload_rescope (cause : Cause) :
    (cause.rescope f).payload = cause.payload.map (·.rescope f) := by
  rcases cause.bare_or_thrown with ⟨hbare, heq⟩ | ⟨kind, message, v, rfl⟩
  · rw [heq, hbare]
    rfl
  · rfl

end CauseOf

namespace FailureOf

theorem rescope_eq (failure : Failure) : failure.rescope f =
    ⟨failure.cause.rescope f, failure.position, failure.trace.map (·.rescope f)⟩ := by
  cases failure
  rfl

@[simp] theorem cause_rescope (failure : Failure) :
    (failure.rescope f).cause = failure.cause.rescope f := by
  rw [rescope_eq]

theorem rescope_withTrace (failure : Failure) (trace : Backtrace) :
    (failure.withTrace trace).rescope f = (failure.rescope f).withTrace (trace.rescope f) := by
  cases htrace : failure.trace <;> simp [withTrace, rescope_eq, htrace]

theorem rescope_annotate (failure : Failure) (position : Option Position) (trace : Backtrace) :
    (failure.annotate position trace).rescope f =
      (failure.rescope f).annotate position (trace.rescope f) := by
  cases position with
  | none => exact rescope_withTrace failure trace
  | some position =>
      simp only [annotate, rescope_withTrace]
      simp [withPosition, rescope_eq]

end FailureOf

theorem Signal.rescope_annotate (signal : Signal) (position : Option Position)
    (trace : Backtrace) : (signal.annotate position trace).rescope f =
      (signal.rescope f).annotate position (trace.rescope f) := by
  cases signal with
  | failed failure => simp [annotate, FailureOf.rescope_annotate]
  | returned v => rfl
  | exhausted => rfl

/-! ## What a program finds out about a value -/

namespace Value

@[simp] theorem isTruthy_rescope (v : Value) : (v.rescope f).isTruthy = v.isTruthy := by
  fun_cases rescope f v <;> rfl

@[simp] theorem typeName_rescope (v : Value) : (v.rescope f).typeName = v.typeName := by
  fun_cases rescope f v <;> rfl

@[simp] theorem keyword?_rescope (v : Value) : (v.rescope f).keyword? = v.keyword? := by
  fun_cases rescope f v <;> rfl

@[simp] theorem number?_rescope (v : Value) : (v.rescope f).number? = v.number? := by
  fun_cases rescope f v <;> rfl

theorem rescope_of_number {v : Value} (h : v.number?.isSome = true) : v.rescope f = v := by
  cases v <;> simp [number?] at h
  exact rescope_number _

theorem displayAtom_rescope (v : Value) : (v.rescope f).displayAtom = v.displayAtom := by
  fun_cases rescope f v <;> simp [displayAtom, FailureOf.display]

mutual

theorem repr_rescope : ∀ v : Value, (v.rescope f).repr = v.repr
  | list items => by simp only [rescope, repr, reprs_rescope items]
  | map entries => by simp only [rescope, repr, entryReprs_rescope entries]
  | nil | bool _ | number _ | char _ | string _ | symbol _ | keyword _ | regex _ | function _
  | object _ _ none => rfl
  | error _ _ => by simp [rescope, repr, reprAtom, displayAtom, FailureOf.display]
  | object _ _ (some _) => rfl

theorem reprs_rescope : ∀ items : List Value, reprs (rescopeItems f items) = reprs items
  | [] => rfl
  | v :: vs => by simp only [rescopeItems, reprs, repr_rescope v, reprs_rescope vs]

theorem entryReprs_rescope :
    ∀ entries : List (Key × Value), entryReprs (rescopeEntries f entries) = entryReprs entries
  | [] => rfl
  | (key, v) :: entries => by
      simp only [rescopeEntries, entryReprs, repr_rescope v, entryReprs_rescope entries]

end

@[simp] theorem display_rescope (v : Value) : (v.rescope f).display = v.display := by
  have hrepr := v.repr_rescope (f := f)
  have hatom := v.displayAtom_rescope (f := f)
  fun_cases rescope f v <;> simp_all [rescope, display]

mutual

theorem equal_rescope : ∀ v w : Value, (v.rescope f).equal (w.rescope f) = v.equal w
  | list xs, w => by
      cases w with
      | list ys => simp only [rescope, equal, equalItems_rescope xs ys]
      | object _ _ elements => cases elements <;> rfl
      | _ => rfl
  | map xs, w => by
      cases w with
      | map ys => simp only [rescope, equal, equalEntries_rescope xs ys]
      | object _ _ elements => cases elements <;> rfl
      | _ => rfl
  | nil, w | bool _, w | number _, w | char _, w | string _, w | symbol _, w | keyword _, w
  | regex _, w | function _, w | error _ _, w | object _ _ none, w | object _ _ (some _), w => by
      cases w with
      | object _ _ elements => cases elements <;> rfl
      | _ => rfl

theorem equalItems_rescope : ∀ xs ys : List Value,
    equalItems (rescopeItems f xs) (rescopeItems f ys) = equalItems xs ys
  | [], [] | [], _ :: _ | _ :: _, [] => rfl
  | v :: vs, w :: ws => by
      simp only [rescopeItems, equalItems, equal_rescope v w, equalItems_rescope vs ws]

theorem equalEntries_rescope : ∀ xs ys : List (Key × Value),
    equalEntries (rescopeEntries f xs) (rescopeEntries f ys) = equalEntries xs ys
  | [], [] | [], _ :: _ | _ :: _, [] => rfl
  | (_, v) :: vs, (_, w) :: ws => by
      simp only [rescopeEntries, equalEntries, equal_rescope v w, equalEntries_rescope vs ws]

end

end Value

/-! ## Primitive functions -/

theorem CauseOf.mismatch_rescope (expected : String) (v : Value) :
    CauseOf.mismatch expected (v.rescope f) = CauseOf.mismatch expected v := by
  simp [CauseOf.mismatch]

namespace Value

theorem numKind?_rescope (v : Value) : (v.rescope f).numKind? = v.numKind? := by
  simp [numKind?]

theorem rescope_of_numKind {v : Value} (h : v.numKind?.isSome = true) : v.rescope f = v := by
  rw [numKind?, Option.isSome_map] at h
  exact rescope_of_number h

theorem map_rescope_of_numbers {vs : List Value} (h : ∀ v ∈ vs, v.numKind?.isSome = true) :
    vs.map (rescope f) = vs := by
  conv => rhs; rw [← List.map_id vs]
  apply List.map_congr_left
  intro v hv
  exact rescope_of_numKind (h v hv)

end Value

theorem promoteAll_rescope (promotion : Promotion) (vs : List Value) :
    promotion.promoteAll (vs.map (·.rescope f)) = promotion.promoteAll vs := by
  induction vs generalizing promotion with
  | nil => rfl
  | cons v vs ih =>
      simp only [List.map_cons, Promotion.promoteAll, Promotion.promote, Value.numKind?_rescope,
        CauseOf.mismatch_rescope, ih]

theorem fold_rescope (op : ArithOp) (vs : List Value) :
    fold op (vs.map (·.rescope f)) = (fold op vs).map (·.rescope f) := by
  by_cases hnumbers : ∀ v ∈ vs, v.numKind?.isSome = true
  · rw [Value.map_rescope_of_numbers hnumbers]
    have htyped := fold_typed op hnumbers
    cases hfold : fold op vs with
    | error cause => rfl
    | ok v =>
        rw [hfold] at htyped
        obtain ⟨kind, hkind, -⟩ := htyped
        have hsame : v.rescope f = v := Value.rescope_of_numKind (by simp [hkind])
        simp [Except.map, hsame]
  · have hother : ∃ v ∈ vs, v.numKind? = none := by simpa using hnumbers
    obtain ⟨found, hfound⟩ := Promotion.start.promoteAll_eq_error hother
    simp only [fold, promoteAll_rescope, hfound]
    rfl

theorem compareChain_rescope (relation : Relation) (vs : List Value) :
    compareChain relation (vs.map (·.rescope f)) = compareChain relation vs := by
  by_cases hnumbers : ∀ v ∈ vs, v.numKind?.isSome = true
  · rw [Value.map_rescope_of_numbers hnumbers]
  · have hother : ∃ v ∈ vs, v.numKind? = none := by simpa using hnumbers
    obtain ⟨found, hfound⟩ := Promotion.start.promoteAll_eq_error hother
    simp only [compareChain, promoteAll_rescope, hfound]
    rfl

theorem spread_rescope (vs : List Value) :
    spread (vs.map (·.rescope f)) = (spread vs).map (·.rescope f) := by
  induction vs with
  | nil => rfl
  | cons v vs ih =>
      cases vs with
      | nil =>
          cases v with
          | list items => simp [spread]
          | object _ _ elements => cases elements <;> rfl
          | _ => rfl
      | cons w ws =>
          simp only [List.map_cons] at ih
          simp [spread, ih]

namespace Primitive

theorem versionOf_rescope (v : Value) :
    versionOf (v.rescope f) = (versionOf v).map (·.rescope f) := by
  cases v with
  | string text =>
      simp only [versionOf, Value.rescope]
      cases Value.versionOfText text <;> rfl
  | number n => cases n <;> rfl
  | object _ _ elements => cases elements <;> rfl
  | _ => rfl

theorem ofFailure_rescope {read : Failure → Value}
    (hread : ∀ failure, read (failure.rescope f) = (read failure).rescope f) (v : Value) :
    ofFailure read (v.rescope f) = (ofFailure read v).map (·.rescope f) := by
  cases v with
  | error id failure => simp [ofFailure, hread, Except.map]
  | object _ _ elements => cases elements <;> rfl
  | _ => rfl

theorem run_rescope (primitive : Primitive) (vs : List Value) :
    primitive.run (vs.map (·.rescope f)) = (primitive.run vs).map (·.rescope f) := by
  cases primitive with
  | arith op => simp only [run, spread_rescope, fold_rescope]
  | compare relation =>
      simp only [run, spread_rescope, compareChain_rescope]
      cases compareChain relation (spread vs) <;> rfl
  | list => simp [run, spread_rescope, Except.map]
  | not =>
      cases vs with
      | nil => rfl
      | cons v vs => simp [run, Except.map, Value.rescope]
  | equal =>
      rcases vs with _ | ⟨v, _ | ⟨w, vs⟩⟩
      · rfl
      · rfl
      · simp [run, Except.map, Value.rescope, Value.equal_rescope]
  | version =>
      cases vs with
      | nil => rfl
      | cons v vs => exact versionOf_rescope v
  | errorMessage =>
      cases vs with
      | nil => rfl
      | cons v vs => exact ofFailure_rescope (by simp [FailureOf.message, Value.rescope]) v
  | errorKind =>
      cases vs with
      | nil => rfl
      | cons v vs => exact ofFailure_rescope (by simp [FailureOf.kind, Value.rescope]) v
  | errorPayload =>
      cases vs with
      | nil => rfl
      | cons v vs =>
          refine ofFailure_rescope ?_ v
          intro failure
          cases hpayload : failure.payload <;> simp_all [FailureOf.payload, Value.rescope]

end Primitive

/-! ## Values that are alike -/

abbrev Value.Alike (f : FrameId → FrameId) (v w : Value) : Prop := v.rescope f = w.rescope f

abbrev AllAlike (f : FrameId → FrameId) (vs ws : List Value) : Prop :=
  vs.map (·.rescope f) = ws.map (·.rescope f)

abbrev FailureOf.Alike (f : FrameId → FrameId) (failure other : Failure) : Prop :=
  failure.rescope f = other.rescope f

abbrev Signal.Alike (f : FrameId → FrameId) (signal other : Signal) : Prop :=
  signal.rescope f = other.rescope f

inductive Value.Matches (f : FrameId → FrameId) : Value → Value → Prop where
  | same (v : Value) : Matches f v v
  | list {xs ys : List Value} (items : AllAlike f xs ys) : Matches f (.list xs) (.list ys)
  | map {xs ys : List (Key × Value)} (values : AllAlike f (xs.map (·.2)) (ys.map (·.2))) :
      Matches f (.map xs) (.map ys)
  | error {id : Nat} {failure other : Failure} (failures : failure.Alike f other) :
      Matches f (.error id failure) (.error id other)
  | object {id : Nat} {typeName : String} {xs ys : Elements Value}
      (elements : AllAlike f xs.toList ys.toList) :
      Matches f (.object id typeName (some xs)) (.object id typeName (some ys))

namespace Value

theorem Alike.cases {v w : Value} (h : v.Alike f w) : v.Matches f w := by
  unfold Alike at h
  fun_cases rescope f v <;> fun_cases rescope f w <;> simp only [rescope, *] at h
  case case1.case1 xs ys => exact .list (by simpa using h)
  case case2.case2 xs ys =>
      simp only [rescopeEntries_eq, map.injEq] at h
      refine .map ?_
      simpa [AllAlike, Function.comp_def] using congrArg (List.map (·.2)) h
  case case3.case3 =>
      obtain ⟨rfl, hfailures⟩ := error.injEq .. ▸ h
      exact .error hfailures
  case case4.case4 xs _ _ ys =>
      simp only [object.injEq, Option.some.injEq, Elements.mk.injEq] at h
      obtain ⟨rfl, rfl, hsize, hget⟩ := h
      refine .object ?_
      simp only [AllAlike, Elements.toList, List.map_map, hsize]
      exact List.map_congr_left fun index _ => congrFun hget index
  case case5.case5 =>
      obtain rfl := h
      exact .same v
  all_goals cases h
  all_goals simp_all

end Value

/-! ## Bound expressions -/

/-- Binding makes literals of values, and no other code. -/
def CodeOf.rescope (f : FrameId → FrameId) : Code → Code
  | .literal v => .literal (v.rescope f)
  | code => code

def Node.rescope (f : FrameId → FrameId) (node : Node) : Node :=
  { node with code := node.code.rescope f }

def Bound.rescope (f : FrameId → FrameId) : Bound → Bound
  | .missing => .missing
  | .single node => .single (node.rescope f)
  | .rest nodes => .rest (nodes.map (·.rescope f))

def BoundArguments.rescope (f : FrameId → FrameId) (arguments : BoundArguments) : BoundArguments :=
  { arguments with bound := arguments.bound.map (·.rescope f) }

abbrev Node.Alike (f : FrameId → FrameId) (node other : Node) : Prop :=
  node.rescope f = other.rescope f

theorem Node.Alike.cases {node other : Node} (h : node.Alike f other) :
    node = other ∨ ∃ v w, v.Alike f w ∧ node = ⟨.literal v, node.name, node.position⟩ ∧
      other = ⟨.literal w, node.name, node.position⟩ := by
  obtain ⟨code, name, position⟩ := node
  obtain ⟨code', name', position'⟩ := other
  simp only [Alike, rescope, Node.mk.injEq] at h
  obtain ⟨hcode, rfl, rfl⟩ := h
  fun_cases CodeOf.rescope f code <;> fun_cases CodeOf.rescope f code' <;>
    simp only [CodeOf.rescope, *] at hcode
  · exact .inr ⟨_, _, CodeOf.literal.inj hcode, rfl, rfl⟩
  · rename_i hother
    exact absurd hcode.symm (hother _)
  · rename_i hother _
    exact absurd hcode (hother _)
  · exact .inl (by rw [hcode])

theorem Node.rescope_ofValue (v : Value) (position : Option Position) :
    (ofValue v position).rescope f = ofValue (v.rescope f) position := by
  simp [ofValue, rescope, CodeOf.rescope, Value.repr_rescope]

@[simp] theorem Node.name_rescope (node : Node) : (node.rescope f).name = node.name := rfl

@[simp] theorem Node.key_rescope (node : Node) :
    (node.rescope f).constant?.bind Value.keyword? = node.constant?.bind Value.keyword? := by
  unfold rescope constant?
  fun_cases CodeOf.rescope f node.code <;> simp_all [CodeOf.constant?]

def KeywordArguments.rescope (f : FrameId → FrameId) (given : KeywordArguments) :
    KeywordArguments :=
  given.map fun pair => (pair.1, pair.2.rescope f)

theorem lookup_mapValues {α β : Type} (g : α → β) (pairs : List (String × α)) (name : String) :
    (pairs.map fun pair => (pair.1, g pair.2)).lookup name = (pairs.lookup name).map g := by
  induction pairs with
  | nil => rfl
  | cons pair pairs ih =>
      obtain ⟨key, a⟩ := pair
      simp only [List.map_cons, List.lookup_cons]
      split
      · rfl
      · exact ih

theorem KeywordArguments.lookup_rescope (given : KeywordArguments) (name : String) :
    (given.rescope f).lookup name = (given.lookup name).map (·.rescope f) :=
  lookup_mapValues _ given name

theorem readKeywords_rescope (spec : LambdaList Node) (nodes : List Node)
    (given : KeywordArguments) :
    readKeywords spec (nodes.map (·.rescope f)) (given.rescope f) =
      (readKeywords spec nodes given).map (·.rescope f) := by
  fun_induction readKeywords spec nodes given with
  | case1 key node rest given hkey => simp [readKeywords, hkey, Except.map]
  | case2 key node rest given name hkey index hindex htwice =>
      simp [readKeywords, hkey, hindex, KeywordArguments.lookup_rescope, htwice, Except.map]
  | case3 key node rest given name hkey index hindex htwice ih =>
      have happend : (KeywordArguments.rescope f given) ++ [(name, node.rescope f)] =
          KeywordArguments.rescope f (given ++ [(name, node)]) := by
        simp [KeywordArguments.rescope]
      simp [readKeywords, hkey, hindex, KeywordArguments.lookup_rescope, htwice, happend, ih]
  | case4 key node rest given name hkey hindex hothers ih =>
      simp [readKeywords, hkey, hindex, hothers, ih]
  | case5 key node rest given name hkey hindex hothers =>
      simp [readKeywords, hkey, hindex, hothers, Except.map]
  | case6 nodes given hshort =>
      rcases nodes with _ | ⟨key, _ | ⟨node, rest⟩⟩
      · rfl
      · rfl
      · exact absurd rfl (hshort key node rest)

theorem bindKeywords_rescope (spec : LambdaList Node) (nodes : List Node) :
    bindKeywords spec (nodes.map (·.rescope f)) = (bindKeywords spec nodes).map (·.rescope f) := by
  unfold bindKeywords
  rw [List.length_map]
  split
  · rfl
  split
  · rfl
  · exact readKeywords_rescope spec nodes []

def Portions.rescope (f : FrameId → FrameId) (portions : Portions) : Portions :=
  ⟨portions.leading.map (·.rescope f), portions.remaining.map (·.rescope f),
    portions.trailing.map (·.rescope f), portions.keywords.rescope f⟩

theorem distribute_rescope (ps : List (Parameter Node)) (portions : Portions) :
    distribute ps (portions.rescope f) = (distribute ps portions).map (·.rescope f) := by
  fun_induction distribute ps portions with
  | case1 => rfl
  | case2 portions p ps hrole node leading hleading ih
  | case4 portions p ps hrole node leading hleading ih =>
      simp only [Portions.rescope] at ih
      simp [distribute, hrole, Portions.rescope, hleading, ih, Bound.rescope]
  | case3 portions p ps hrole hleading ih
  | case5 portions p ps hrole hleading ih =>
      simp only [Portions.rescope] at ih
      simp_all [distribute, Portions.rescope, Bound.rescope]
  | case6 portions p ps hrole node trailing htrailing ih =>
      simp only [Portions.rescope] at ih
      simp [distribute, hrole, Portions.rescope, htrailing, ih, Bound.rescope]
  | case7 portions p ps hrole htrailing ih =>
      simp only [Portions.rescope] at ih
      simp_all [distribute, Portions.rescope, Bound.rescope]
  | case8 portions p ps hrole ih =>
      simp only [Portions.rescope] at ih
      simp [distribute, hrole, Portions.rescope, ih, Bound.rescope]
  | case9 portions p ps hrole node hlookup ih
  | case11 portions p ps hrole node hlookup ih =>
      simp only [Portions.rescope] at ih
      simp [distribute, hrole, Portions.rescope, KeywordArguments.lookup_rescope, hlookup, ih,
        Bound.rescope]
  | case10 portions p ps hrole hlookup ih
  | case12 portions p ps hrole hlookup ih =>
      simp only [Portions.rescope] at ih
      simp [distribute, hrole, Portions.rescope, KeywordArguments.lookup_rescope, hlookup, ih,
        Bound.rescope]

/-- Binding looks at the number of the expressions, at the keywords among them and at their names.
-/
theorem bindArguments_rescope (spec : LambdaList Node) (nodes : List Node) :
    bindArguments spec (nodes.map (·.rescope f)) =
      (bindArguments spec nodes).map (·.rescope f) := by
  unfold bindArguments
  simp only [List.length_map]
  split
  · rfl
  · simp only [← List.map_take, ← List.map_drop, bindKeywords_rescope]
    cases hkeywords : bindKeywords spec _ with
    | error cause => rfl
    | ok keywords =>
        simp only [Except.map, bind, Except.bind, List.isEmpty_map, List.length_map]
        split
        · rfl
        · have hbounds := distribute_rescope (f := f) spec.parameters (.cut spec nodes keywords)
          exact congrArg (fun bound => (.ok ⟨spec, bound⟩ : Except Cause BoundArguments)) hbounds

/-! ## The embedding program -/

inductive HostAction.Alike (f : FrameId → FrameId) : HostAction → HostAction → Prop where
  | yield {v w : Value} (values : v.Alike f w) : Alike f (.yield v) (.yield w)
  | fail {failure other : Failure} (failures : failure.Alike f other) :
      Alike f (.fail failure) (.fail other)
  | leave {v w : Value} (values : v.Alike f w) : Alike f (.leave v) (.leave w)
  | call {callee : FunctionRef} {vs ws : List Value} {next other : Value → HostAction}
      (arguments : AllAlike f vs ws) (further : ∀ v w, v.Alike f w → Alike f (next v) (other w)) :
      Alike f (.call callee vs next) (.call callee ws other)
  | evaluate {index : Nat} {next other : Value → HostAction}
      (further : ∀ v w, v.Alike f w → Alike f (next v) (other w)) :
      Alike f (.evaluate index next) (.evaluate index other)

/-- A part of the embedding program does not look at the frames in backtraces. -/
def HostAction.Discreet (action : HostAction) : Prop := ∀ f, action.Alike f action

def NativeCode.Discreet : NativeCode → Prop
  | .primitive _ => True
  | .host run => ∀ f trace other vs ws, trace.rescope f = other.rescope f → AllAlike f vs ws →
      (run trace vs).Alike f (run other ws)

def discreetCode : Fragment where
  value _ := True
  loops := True
  host := HostAction.Discreet
  unplaced := True

abbrev Node.Discreet (node : Node) : Prop := node.Obeys discreetCode

structure Callable.Discreet (callable : Callable) : Prop where
  nodes : ∀ node ∈ callable.nodes, node.Discreet
  native : ∀ native, callable = .native native → native.code.Discreet

end LispEngine
