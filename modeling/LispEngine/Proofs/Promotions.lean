import LispEngine.Number.Promotion

/-!
# The kinds of results

An operator looks at the kinds of all its operands before it looks at their values. So a value that
is no number is found wherever it stands, and the kind of the result is the greatest kind among the
operands.
-/

namespace LispEngine

theorem Value.numKind?_eq_some_iff {v : Value} {kind : NumKind} :
    v.numKind? = some kind ↔ ∃ n, v = .number n ∧ n.kind = kind := by
  cases v <;> simp [numKind?, number?]

/-! ## The greatest kind -/

namespace NumKind

private theorem rank_injective {kind other : NumKind} (h : kind.rank = other.rank) :
    kind = other := by
  cases kind <;> cases other <;> first | rfl | simp [rank] at h

structure Widest (kind : NumKind) (operands : List Value) : Prop where
  attained : ∃ v ∈ operands, v.numKind? = some kind
  bounds {v : Value} {other : NumKind} : v ∈ operands → v.numKind? = some other →
    other.rank ≤ kind.rank

namespace Widest

variable {kind other : NumKind} {operands others : List Value}

theorem congr (h : kind.Widest operands) (hsame : ∀ v, v ∈ operands ↔ v ∈ others) :
    kind.Widest others := by
  obtain ⟨v, hv, hkind⟩ := h.attained
  exact ⟨⟨v, (hsame v).mp hv, hkind⟩, fun hmem => h.bounds ((hsame _).mpr hmem)⟩

theorem unique (h : kind.Widest operands) (h' : other.Widest operands) : kind = other := by
  obtain ⟨v, hv, hkind⟩ := h.attained
  obtain ⟨w, hw, hother⟩ := h'.attained
  have hle := h'.bounds hv hkind
  have hge := h.bounds hw hother
  apply rank_injective
  omega

theorem singleton {v : Value} (h : v.numKind? = some kind) : kind.Widest [v] := by
  refine ⟨⟨v, by simp, h⟩, ?_⟩
  intro w other hw hother
  obtain rfl := List.mem_singleton.mp hw
  rw [h] at hother
  cases hother
  omega

theorem cons {v : Value} (h : kind.Widest operands) (hv : v.numKind? = some other) :
    (kind.widest other).Widest (v :: operands) := by
  obtain ⟨w, hw, hkind⟩ := h.attained
  by_cases hle : kind.rank ≤ other.rank
  · rw [widest, if_pos hle]
    refine ⟨⟨v, by simp, hv⟩, ?_⟩
    intro u found hu hfound
    rcases List.mem_cons.mp hu with rfl | hold
    · rw [hv] at hfound
      cases hfound
      omega
    · have hbound := h.bounds hold hfound
      omega
  · rw [widest, if_neg hle]
    refine ⟨⟨w, by simp [hw], hkind⟩, ?_⟩
    intro u found hu hfound
    rcases List.mem_cons.mp hu with rfl | hold
    · rw [hv] at hfound
      cases hfound
      omega
    · exact h.bounds hold hfound

end Widest

end NumKind

namespace Promotion

def Covers (promotion : Promotion) (operands : List Value) : Prop :=
  (promotion.widest = none ∧ operands = []) ∨
    ∃ kind, promotion.widest = some kind ∧ kind.Widest operands

theorem start_covers : start.Covers [] := .inl ⟨rfl, rfl⟩

theorem Covers.eq_start {promotion : Promotion} (h : promotion.Covers []) : promotion = start := by
  rcases h with ⟨hnone, -⟩ | ⟨kind, -, hwidest⟩
  · cases promotion
    exact congrArg mk hnone
  · simpa using hwidest.attained

theorem Covers.eq_some {promotion : Promotion} {v : Value} {operands : List Value}
    (h : promotion.Covers (v :: operands)) :
    ∃ kind, promotion = ⟨some kind⟩ ∧ kind.Widest (v :: operands) := by
  rcases h with ⟨-, hempty⟩ | ⟨kind, hsome, hwidest⟩
  · cases hempty
  · cases promotion
    exact ⟨kind, congrArg mk hsome, hwidest⟩

private theorem widen_covers {promotion : Promotion} {seen : List Value} (h : promotion.Covers seen)
    {v : Value} {kind : NumKind} (hv : v.numKind? = some kind) :
    (promotion.widen kind).Covers (v :: seen) := by
  rcases h with ⟨hnone, rfl⟩ | ⟨widest, hsome, hwidest⟩
  · right
    exact ⟨kind, by simp [widen, hnone], .singleton hv⟩
  · right
    exact ⟨widest.widest kind, by simp [widen, hsome], hwidest.cons hv⟩

theorem promoteAll_eq_ok {promotion : Promotion} {seen operands : List Value}
    (h : promotion.Covers seen) (hnumbers : ∀ v ∈ operands, v.numKind?.isSome = true) :
    ∃ last, promotion.promoteAll operands = .ok last ∧ last.Covers (operands ++ seen) := by
  induction operands generalizing promotion seen with
  | nil => exact ⟨promotion, rfl, h⟩
  | cons v operands ih =>
      obtain ⟨hv, hrest⟩ := List.forall_mem_cons.mp hnumbers
      obtain ⟨kind, hkind⟩ := Option.isSome_iff_exists.mp hv
      obtain ⟨last, hlast, hcovers⟩ := ih (widen_covers h hkind) hrest
      refine ⟨last, ?_, ?_⟩
      · simp only [promoteAll, promote, hkind]
        exact hlast
      · rcases hcovers with ⟨-, hempty⟩ | ⟨widest, hsome, hwidest⟩
        · simp at hempty
        · right
          refine ⟨widest, hsome, hwidest.congr ?_⟩
          intro w
          simp only [List.mem_append, List.mem_cons, List.cons_append]
          exact or_left_comm

theorem promoteAll_eq_error {operands : List Value} (promotion : Promotion)
    (h : ∃ v ∈ operands, v.numKind? = none) :
    ∃ found, promotion.promoteAll operands = .error (.mismatch "number" found) := by
  induction operands generalizing promotion with
  | nil => simp at h
  | cons v operands ih =>
      cases hkind : v.numKind? with
      | none => exact ⟨v, by simp only [promoteAll, promote, hkind]; rfl⟩
      | some kind =>
          obtain ⟨found, hfound⟩ := ih (promotion.widen kind) (by simpa [hkind] using h)
          refine ⟨found, ?_⟩
          simp only [promoteAll, promote, hkind]
          exact hfound

end Promotion

/-! ## Operands that stand in for missing ones -/

/-- All operands that an operator works on: the neutral one stands in for missing ones, and comes
before a single operand of subtraction or division. -/
def ArithOp.completed : ArithOp → List Value → List Value
  | op, [] => (op.neutral.map Value.number).toList
  | .sub, [v] => [.int 0, v]
  | .div, [v] => [.int 1, v]
  | _, operands => operands

theorem fold_eq_mismatch (op : ArithOp) {operands : List Value}
    (h : ∃ v ∈ operands, v.numKind? = none) :
    ∃ found, fold op operands = .error (.mismatch "number" found) := by
  obtain ⟨found, hfound⟩ := Promotion.start.promoteAll_eq_error h
  refine ⟨found, ?_⟩
  simp only [fold, hfound]
  rfl

theorem fold_rem_eq_error {operands : List Value}
    (hnumbers : ∀ v ∈ operands, v.numKind?.isSome = true)
    (hcount : operands.length < 2) : fold .rem operands = .error (.tooFewOperands .rem) := by
  obtain ⟨promotion, hpromote, -⟩ := Promotion.promoteAll_eq_ok Promotion.start_covers hnumbers
  simp only [fold, hpromote]
  cases operands with
  | nil => rfl
  | cons v operands =>
      cases operands with
      | nil => rfl
      | cons w operands =>
          simp only [List.length_cons] at hcount
          omega

private theorem combineAll_singleton (promotion : Promotion) (op : ArithOp) (acc v : Value) :
    combineAll promotion op acc [v] = promotion.combine op acc v :=
  bind_pure _

/-- Unless operands are missing that nothing stands in for, an operator goes through all its
operands in the kind that is the greatest one among theirs. -/
theorem fold_eq (op : ArithOp) {operands : List Value}
    (hnumbers : ∀ v ∈ operands, v.numKind?.isSome = true)
    (hcount : op = .rem → 2 ≤ operands.length) :
    ∃ kind first rest, op.completed operands = first :: rest ∧ kind.Widest (first :: rest) ∧
      fold op operands = (combineAll ⟨some kind⟩ op first rest).map
        (Promotion.finish ⟨some kind⟩) := by
  obtain ⟨promotion, hpromote, hcovers⟩ :=
    Promotion.promoteAll_eq_ok Promotion.start_covers hnumbers
  rw [List.append_nil] at hcovers
  simp only [fold, hpromote]
  rcases operands with _ | ⟨first, _ | ⟨second, rest⟩⟩
  · obtain rfl := hcovers.eq_start
    cases op with
    | add | sub => exact ⟨.int, .int 0, [], rfl, .singleton rfl, rfl⟩
    | mul | div => exact ⟨.int, .int 1, [], rfl, .singleton rfl, rfl⟩
    | rem => simp at hcount
  · obtain ⟨kind, rfl, hwidest⟩ := hcovers.eq_some
    cases op with
    | add | mul => exact ⟨kind, first, [], rfl, hwidest, rfl⟩
    | sub =>
        refine ⟨kind.widest .int, .int 0, [first], rfl, hwidest.cons rfl, ?_⟩
        rw [combineAll_singleton]
        rfl
    | div =>
        refine ⟨kind.widest .int, .int 1, [first], rfl, hwidest.cons rfl, ?_⟩
        rw [combineAll_singleton]
        rfl
    | rem => simp at hcount
  · obtain ⟨kind, rfl, hwidest⟩ := hcovers.eq_some
    refine ⟨kind, first, second :: rest, by cases op <;> rfl, hwidest, ?_⟩
    cases op <;> rfl

/-! ## Kinds of results -/

def Typed {α : Type} (Q : α → Prop) : Except Cause α → Prop
  | .ok a => Q a
  | .error cause => cause.kind ≠ .type

theorem Typed.bind {α β : Type} {Q : α → Prop} {R : β → Prop} {m : Except Cause α}
    {next : α → Except Cause β} (h : Typed Q m) (hnext : ∀ a, Q a → Typed R (next a)) :
    Typed R (m >>= next) := by
  cases m with
  | ok a => exact hnext a h
  | error cause => exact h

/-- The kind that operations work in. Integers of every kind are worked on in 64 bits. -/
def NumKind.working (kind : NumKind) : NumKind := if kind.isInteger then .long else kind

def Value.WithinKind (kind : NumKind) (v : Value) : Prop :=
  ∃ other, v.numKind? = some other ∧ other.rank ≤ kind.working.rank

private theorem NumKind.rank_le_working (kind : NumKind) : kind.rank ≤ kind.working.rank := by
  cases kind <;> decide

theorem NumKind.Widest.within {kind : NumKind} {operands : List Value} (h : kind.Widest operands)
    {v : Value} (hmem : v ∈ operands) (hnumber : v.numKind?.isSome = true) : v.WithinKind kind := by
  obtain ⟨other, hother⟩ := Option.isSome_iff_exists.mp hnumber
  have hbound := h.bounds hmem hother
  have hworking := kind.rank_le_working
  exact ⟨other, hother, by omega⟩

section Operands

variable {kind : NumKind} {v : Value} (h : v.WithinKind kind)

include h

theorem intOperand_typed (hkind : kind.working = .long) : Typed (fun _ => True) v.intOperand := by
  obtain ⟨other, hother, hrank⟩ := h
  obtain ⟨n, rfl, rfl⟩ := Value.numKind?_eq_some_iff.mp hother
  rw [hkind] at hrank
  cases n <;> trivial

theorem doubleOperand_typed (hkind : kind.working.rank ≤ NumKind.double.rank) :
    Typed (fun _ => True) v.doubleOperand := by
  obtain ⟨other, hother, hrank⟩ := h
  obtain ⟨n, rfl, rfl⟩ := Value.numKind?_eq_some_iff.mp hother
  cases n with
  | version version =>
      simp only [Number.kind, NumKind.rank] at hrank hkind
      omega
  | _ => trivial

theorem versionOperand_typed : Typed (fun _ => True) v.versionOperand := by
  obtain ⟨other, hother, hrank⟩ := h
  obtain ⟨n, rfl, rfl⟩ := Value.numKind?_eq_some_iff.mp hother
  have htext (text : String) : Typed (fun _ => True) (Value.versionOfText text) := by
    unfold Value.versionOfText
    split
    · trivial
    · simp [Typed, CauseOf.kind]
  have hint (n : Int64) : Typed (fun _ => True)
      (if 0 ≤ n.toInt then .ok (⟨[n.toUInt64]⟩ : Version) else .error (.negativeVersion n)) := by
    split
    · trivial
    · simp [Typed, CauseOf.kind]
  cases n with
  | byte n => exact hint n.toInt64
  | short n => exact hint n.toInt64
  | int n => exact hint n.toInt64
  | long n => exact hint n
  | float x => exact htext _
  | double x => exact htext _
  | version version => trivial

end Operands

theorem applyInt_typed (op : ArithOp) (x y : Int64) : Typed (fun _ => True) (op.applyInt x y) := by
  unfold ArithOp.applyInt
  split
  · simp [Typed, CauseOf.kind]
  · split
    · trivial
    · simp [Typed, CauseOf.kind]

theorem applyVersion_typed (op : ArithOp) (x y : Version) :
    Typed (fun _ => True) (op.applyVersion x y) := by
  cases op with
  | add | sub =>
      simp only [ArithOp.applyVersion]
      split
      · trivial
      · simp [Typed, CauseOf.kind]
  | mul | div | rem => simp [ArithOp.applyVersion, Typed, CauseOf.kind]

theorem combine_typed {kind : NumKind} {a b : Value} (op : ArithOp) (ha : a.WithinKind kind)
    (hb : b.WithinKind kind) :
    Typed (fun v => v.numKind? = some kind.working) (Promotion.combine ⟨some kind⟩ op a b) := by
  have hints (hkind : kind.working = .long) : Typed (fun v => v.numKind? = some kind.working)
      (do
        let x ← a.intOperand
        let y ← b.intOperand
        let z ← op.applyInt x y
        return Value.long z) := by
    refine (intOperand_typed ha hkind).bind fun x _ => ?_
    refine (intOperand_typed hb hkind).bind fun y _ => ?_
    refine (applyInt_typed op x y).bind fun z _ => ?_
    rw [hkind]
    rfl
  cases kind with
  | byte | short | int | long => exact hints rfl
  | float =>
      exact (doubleOperand_typed ha (by decide)).bind fun x _ =>
        (doubleOperand_typed hb (by decide)).bind fun y _ => rfl
  | double =>
      exact (doubleOperand_typed ha (by decide)).bind fun x _ =>
        (doubleOperand_typed hb (by decide)).bind fun y _ => rfl
  | version =>
      refine (versionOperand_typed ha).bind fun x _ => (versionOperand_typed hb).bind fun y _ => ?_
      exact (applyVersion_typed op x y).bind fun z _ => rfl

theorem combineAll_typed {kind : NumKind} (op : ArithOp) {first : Value} {rest : List Value}
    (hfirst : first.WithinKind kind) (hrest : ∀ v ∈ rest, v.WithinKind kind) :
    Typed (fun v => v.numKind? = some kind.working ∨ rest = [] ∧ v = first)
      (combineAll ⟨some kind⟩ op first rest) := by
  induction rest generalizing first with
  | nil => exact .inr ⟨rfl, rfl⟩
  | cons v rest ih =>
      obtain ⟨hv, hrest⟩ := List.forall_mem_cons.mp hrest
      refine (combine_typed op hfirst hv).bind ?_
      intro next hnext
      have hsteps := ih ⟨_, hnext, Nat.le_refl _⟩ hrest
      revert hsteps
      cases combineAll ⟨some kind⟩ op next rest with
      | error cause => exact id
      | ok result =>
          rintro (hkind | ⟨-, rfl⟩)
          · exact .inl hkind
          · exact .inl hnext

theorem finish_kind {kind : NumKind} {v : Value}
    (h : v.numKind? = some kind.working ∨ v.numKind? = some kind) :
    (Promotion.finish ⟨some kind⟩ v).numKind? = some kind := by
  obtain ⟨n, rfl⟩ : ∃ n, v = .number n := by
    rcases h with h | h
    · exact (Value.numKind?_eq_some_iff.mp h).imp fun _ => And.left
    · exact (Value.numKind?_eq_some_iff.mp h).imp fun _ => And.left
  cases kind <;> cases n <;>
    simp_all [Promotion.finish, Value.numKind?, Value.number?, Number.kind, NumKind.working,
      NumKind.isInteger, NumKind.rank]

private theorem ArithOp.completed_numbers (op : ArithOp) {operands : List Value}
    (h : ∀ v ∈ operands, v.numKind?.isSome = true) :
    ∀ v ∈ op.completed operands, v.numKind?.isSome = true := by
  unfold completed
  split
  · cases op <;> simp [neutral, Value.numKind?, Value.number?]
  · simpa [Value.int, Value.numKind?, Value.number?] using h
  · simpa [Value.int, Value.numKind?, Value.number?] using h
  · exact h

theorem fold_typed (op : ArithOp) {operands : List Value}
    (hnumbers : ∀ v ∈ operands, v.numKind?.isSome = true) :
    Typed (fun v => ∃ kind, v.numKind? = some kind ∧ kind.Widest (op.completed operands))
      (fold op operands) := by
  by_cases hcount : op = .rem ∧ operands.length < 2
  · obtain ⟨rfl, hfew⟩ := hcount
    rw [fold_rem_eq_error hnumbers hfew]
    simp [Typed, CauseOf.kind]
  · obtain ⟨kind, first, rest, hcompleted, hwidest, hfold⟩ :=
      fold_eq op hnumbers fun hop => Nat.le_of_not_lt fun hfew => hcount ⟨hop, hfew⟩
    have hwithin : ∀ v ∈ first :: rest, v.WithinKind kind := fun v hv =>
      hwidest.within hv (op.completed_numbers hnumbers v (hcompleted ▸ hv))
    obtain ⟨hfirst, hrest⟩ := List.forall_mem_cons.mp hwithin
    have hsteps := combineAll_typed op hfirst hrest
    rw [hfold, hcompleted]
    cases hresult : combineAll ⟨some kind⟩ op first rest with
    | error cause =>
        rw [hresult] at hsteps
        exact hsteps
    | ok v =>
        rw [hresult] at hsteps
        refine ⟨kind, finish_kind (hsteps.imp_right ?_), hwidest⟩
        rintro ⟨rfl, rfl⟩
        obtain ⟨w, hw, hkind⟩ := hwidest.attained
        obtain rfl := List.mem_singleton.mp hw
        exact hkind

theorem ArithOp.completed_of_le (op : ArithOp) {operands : List Value} (h : 2 ≤ operands.length) :
    op.completed operands = operands := by
  unfold completed
  split
  · simp at h
  · simp at h
  · simp at h
  · rfl

private theorem ArithOp.mem_completed_of_perm (op : ArithOp) {operands others : List Value}
    (h : operands.Perm others) (v : Value) :
    v ∈ op.completed operands ↔ v ∈ op.completed others := by
  have hlength := h.length_eq
  rcases operands with _ | ⟨first, _ | ⟨second, rest⟩⟩
  · rw [h.nil_eq]
  · rw [List.singleton_perm.mp h]
  · rw [op.completed_of_le (by simp), op.completed_of_le (by simp at hlength; omega)]
    exact h.mem_iff

/-- An operator fails for the type of an operand if and only if some operand is no number, wherever
it stands. If it succeeds, the kind of the result is the greatest kind among all the operands that
it works on, in whatever order they stand. -/
theorem fold_kind (op : ArithOp) (operands : List Value) :
    ((∃ cause, fold op operands = .error cause ∧ cause.kind = .type) ↔
      ∃ v ∈ operands, v.numKind? = none) ∧
    (∀ result, fold op operands = .ok result →
      ∃ kind, result.numKind? = some kind ∧ kind.Widest (op.completed operands)) ∧
    ∀ others result other, operands.Perm others → fold op operands = .ok result →
      fold op others = .ok other → result.numKind? = other.numKind? := by
  have hnumbers {vs : List Value} (h : ¬∃ v ∈ vs, v.numKind? = none) :
      ∀ v ∈ vs, v.numKind?.isSome = true := by
    intro v hv
    rw [Option.isSome_iff_ne_none]
    exact fun hnone => h ⟨v, hv, hnone⟩
  have hresult {vs : List Value} {result : Value} (h : fold op vs = .ok result) :
      ∃ kind, result.numKind? = some kind ∧ kind.Widest (op.completed vs) := by
    have hall : ¬∃ v ∈ vs, v.numKind? = none := by
      intro hnone
      obtain ⟨found, hfound⟩ := fold_eq_mismatch op hnone
      rw [h] at hfound
      cases hfound
    have htyped := fold_typed op (hnumbers hall)
    rw [h] at htyped
    exact htyped
  refine ⟨⟨?_, ?_⟩, fun _ => hresult, ?_⟩
  · rintro ⟨cause, hfold, htype⟩
    apply Classical.byContradiction
    intro hall
    have htyped := fold_typed op (hnumbers hall)
    rw [hfold] at htyped
    exact htyped htype
  · intro hnone
    obtain ⟨found, hfound⟩ := fold_eq_mismatch op hnone
    exact ⟨_, hfound, rfl⟩
  · intro others result other hperm hfold hfold'
    obtain ⟨kind, hkind, hwidest⟩ := hresult hfold
    obtain ⟨kind', hkind', hwidest'⟩ := hresult hfold'
    rw [hkind, hkind',
      hwidest.unique (hwidest'.congr fun v => (op.mem_completed_of_perm hperm v).symm)]

/-- A string after a division by zero is found first. The opposite of a single byte is an `int`. -/
theorem fold_kind_byte_operands :
    (∃ cause, fold .div [.int 1, .int 0, .string "x"] = .error cause ∧ cause.kind = .type) ∧
    ∃ kind, (Value.int (-5)).numKind? = some kind ∧
      kind.Widest (ArithOp.sub.completed [.number (.byte 5)]) :=
  ⟨(fold_kind .div [.int 1, .int 0, .string "x"]).1.mpr ⟨.string "x", by simp, rfl⟩,
    (fold_kind .sub [.number (.byte 5)]).2.1 _ rfl⟩

end LispEngine
