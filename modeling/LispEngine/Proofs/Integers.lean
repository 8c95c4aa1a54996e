import LispEngine.Proofs.Promotions
import Mathlib.Data.Int.ModEq
import Mathlib.Data.List.Perm.Basic

/-!
# Integer arithmetic

Operators on integers of any kinds are carried out in 64 bits, where every step is exact or fails.
Only the last result is cut to the kind that the operands call for.
-/

namespace LispEngine

def Value.whole? (v : Value) : Option Int := v.toInt64?.map Int64.toInt

def NumKind.bits : NumKind → Nat
  | byte => 8
  | short => 16
  | int => 32
  | long => 64
  | float | double | version => 0

def OverflowsLong (z : Int) : Prop := z < -2 ^ 63 ∨ 2 ^ 63 ≤ z

namespace ArithOp

/-- A step that cannot be carried out in 64 bits. -/
def Breaks : ArithOp → Int → Int → Prop
  | add, x, y => OverflowsLong (x + y)
  | sub, x, y => OverflowsLong (x - y)
  | mul, x, y => OverflowsLong (x * y)
  | div, x, y => y = 0 ∨ OverflowsLong (x.tdiv y)
  | rem, x, y => y = 0 ∨ OverflowsLong (x.tdiv y)

def BreaksDown (op : ArithOp) (x : Int) (ys : List Int) : Prop :=
  ∃ before y after, ys = before ++ y :: after ∧ op.Breaks (before.foldl op.exact x) y

theorem breaksDown_nil (op : ArithOp) (x : Int) : ¬op.BreaksDown x [] := by
  rintro ⟨before, y, after, hsplit, -⟩
  simp at hsplit

theorem breaksDown_cons (op : ArithOp) (x y : Int) (ys : List Int) :
    op.BreaksDown x (y :: ys) ↔ op.Breaks x y ∨ op.BreaksDown (op.exact x y) ys := by
  constructor
  · rintro ⟨before, z, after, hsplit, hbreaks⟩
    cases before with
    | nil =>
        obtain ⟨rfl, rfl⟩ := List.cons.inj hsplit
        exact .inl hbreaks
    | cons w before =>
        obtain ⟨rfl, rfl⟩ := List.cons.inj hsplit
        exact .inr ⟨before, z, after, rfl, hbreaks⟩
  · rintro (hbreaks | ⟨before, z, after, rfl, hbreaks⟩)
    · exact ⟨[], y, ys, rfl, hbreaks⟩
    · exact ⟨y :: before, z, after, rfl, hbreaks⟩

/-! ## One step -/

theorem inRange_iff (z : Int) : inRange z = true ↔ ¬OverflowsLong z := by
  simp only [inRange, Bool.and_eq_true, decide_eq_true_eq]
  simp only [longBound, OverflowsLong]
  omega

private theorem exact_inRange {op : ArithOp} {x y : Int64} (h : ¬op.Breaks x.toInt y.toInt) :
    ¬OverflowsLong (op.exact x.toInt y.toInt) := by
  cases op with
  | add | sub | mul => exact h
  | div => exact fun hover => h (.inr hover)
  | rem =>
      have hdivisor : y.toInt ≠ 0 := fun hzero => h (.inl hzero)
      have hsmall : (x.toInt.tmod y.toInt).natAbs < y.toInt.natAbs := by
        rw [Int.natAbs_tmod]
        exact Nat.mod_lt _ (by omega)
      have hlow := y.le_toInt
      have hhigh := y.toInt_lt
      simp only [exact, OverflowsLong]
      omega

theorem applyInt_eq_ok {op : ArithOp} {x y : Int64} (h : ¬op.Breaks x.toInt y.toInt) :
    ∃ z : Int64, op.applyInt x y = .ok z ∧ z.toInt = op.exact x.toInt y.toInt := by
  have hexact := exact_inRange h
  refine ⟨Int64.ofInt (op.exact x.toInt y.toInt), ?_, ?_⟩
  · have hchecked : inRange (op.checked x.toInt y.toInt) = true := by
      rw [inRange_iff]
      cases op with
      | add | sub | mul => exact h
      | div | rem => exact fun hover => h (.inr hover)
    have hdivisor : (op.needsDivisor && y.toInt == 0) = false := by
      cases op with
      | add | sub | mul => rfl
      | div | rem => simpa [needsDivisor] using fun hzero => h (.inl hzero)
    simp [applyInt, hdivisor, hchecked]
  · simp only [OverflowsLong] at hexact
    exact Int64.toInt_ofInt_of_le (by omega) (by omega)

theorem applyInt_eq_error {op : ArithOp} {x y : Int64} (h : op.Breaks x.toInt y.toInt) :
    ∃ cause, op.applyInt x y = .error cause ∧ cause.kind = .arithmetic := by
  by_cases hdivisor : (op.needsDivisor && y.toInt == 0) = true
  · exact ⟨.divisionByZero, by simp only [applyInt, hdivisor, if_true], rfl⟩
  · have hchecked : ¬inRange (op.checked x.toInt y.toInt) = true := by
      rw [inRange_iff, not_not]
      cases op with
      | add | sub | mul => exact h
      | div | rem => exact h.resolve_left fun hzero => hdivisor (by simp [needsDivisor, hzero])
    exact ⟨.integerOverflow x op y, by simp only [applyInt, hdivisor, hchecked]; rfl, rfl⟩

end ArithOp

/-! ## All steps -/

abbrev Whole (operands : List Value) (numbers : List Int) : Prop :=
  List.Forall₂ (fun v x => v.whole? = some x) operands numbers

theorem exists_of_forall₂ {α β : Type} {R : α → β → Prop} {as : List α} {bs : List β}
    (h : List.Forall₂ R as bs) {a : α} (ha : a ∈ as) : ∃ b, R a b := by
  induction h with
  | nil => cases ha
  | cons hfirst _ ih =>
      rcases List.mem_cons.mp ha with rfl | hrest
      · exact ⟨_, hfirst⟩
      · exact ih hrest

theorem Value.whole?_eq_some_iff {v : Value} {x : Int} :
    v.whole? = some x ↔ ∃ n, v.toInt64? = some n ∧ n.toInt = x := by
  simp [whole?]

theorem combine_integers {kind : NumKind} (hkind : kind.isInteger = true) (op : ArithOp)
    {a b : Value} {x y : Int64} (ha : a.toInt64? = some x) (hb : b.toInt64? = some y) :
    Promotion.combine ⟨some kind⟩ op a b = (op.applyInt x y).map Value.long := by
  have hints :
    (do let x ← a.intOperand; let y ← b.intOperand; let z ← op.applyInt x y; return Value.long z) =
      (op.applyInt x y).map Value.long := by
    simp only [Value.intOperand, ha, hb]
    rfl
  cases kind with
  | byte | short | int | long => exact hints
  | float | double | version => cases hkind

variable {kind : NumKind} {op : ArithOp} {first : Value} {rest : List Value} {x : Int}
  {ys : List Int}

theorem combineAll_eq_ok (hkind : kind.isInteger = true) (hfirst : first.whole? = some x)
    (hrest : Whole rest ys) (h : ¬op.BreaksDown x ys) :
    ∃ v, combineAll ⟨some kind⟩ op first rest = .ok v ∧ v.whole? = some (ys.foldl op.exact x) ∧
      (rest ≠ [] → ∃ z, v = .long z) := by
  induction hrest generalizing first x with
  | nil => exact ⟨first, rfl, hfirst, by simp⟩
  | @cons v y rest ys hv _ ih =>
      obtain ⟨hstep, hsteps⟩ := not_or.mp ((op.breaksDown_cons x y ys).not.mp h)
      obtain ⟨n, hn, rfl⟩ := Value.whole?_eq_some_iff.mp hfirst
      obtain ⟨m, hm, rfl⟩ := Value.whole?_eq_some_iff.mp hv
      obtain ⟨z, happly, hexact⟩ := ArithOp.applyInt_eq_ok hstep
      have hnext : (Value.long z).whole? = some (op.exact n.toInt m.toInt) := congrArg some hexact
      obtain ⟨last, hrun, hwhole, hlong⟩ := ih hnext hsteps
      refine ⟨last, ?_, hwhole, ?_⟩
      · rw [combineAll, combine_integers hkind op hn hm, happly]
        exact hrun
      · intro _
        by_cases hempty : rest = []
        · subst hempty
          cases hrun
          exact ⟨z, rfl⟩
        · exact hlong hempty

theorem combineAll_eq_error (hkind : kind.isInteger = true) (hfirst : first.whole? = some x)
    (hrest : Whole rest ys) (h : op.BreaksDown x ys) :
    ∃ cause, combineAll ⟨some kind⟩ op first rest = .error cause ∧ cause.kind = .arithmetic := by
  induction hrest generalizing first x with
  | nil => exact absurd h (op.breaksDown_nil x)
  | @cons v y rest ys hv _ ih =>
      obtain ⟨n, hn, rfl⟩ := Value.whole?_eq_some_iff.mp hfirst
      obtain ⟨m, hm, rfl⟩ := Value.whole?_eq_some_iff.mp hv
      rw [combineAll, combine_integers hkind op hn hm]
      by_cases hstep : op.Breaks n.toInt m.toInt
      · obtain ⟨cause, happly, harithmetic⟩ := ArithOp.applyInt_eq_error hstep
        exact ⟨cause, by rw [happly]; rfl, harithmetic⟩
      · obtain ⟨z, happly, hexact⟩ := ArithOp.applyInt_eq_ok hstep
        rw [happly]
        have hsteps := ((op.breaksDown_cons _ _ ys).mp h).resolve_left hstep
        have hnext : (Value.long z).whole? = some (op.exact n.toInt m.toInt) := congrArg some hexact
        exact ih hnext hsteps

/-! ## The last cut -/

theorem Value.numKind?_isSome_of_whole {v : Value} (h : v.whole? = some x) :
    v.numKind?.isSome = true := by
  cases v <;> first | rfl | simp [whole?, toInt64?, number?] at h

theorem Value.isInteger_of_whole {v : Value} (h : v.whole? = some x)
    (hkind : v.numKind? = some kind) :
    kind.isInteger = true := by
  obtain ⟨n, rfl, rfl⟩ := Value.numKind?_eq_some_iff.mp hkind
  cases n <;> first | rfl | simp [whole?, toInt64?, number?, Number.toInt64?] at h

theorem finish_whole (hkind : kind.isInteger = true) (z : Int64) :
    (Promotion.finish ⟨some kind⟩ (.long z)).whole? = some (z.toInt.bmod (2 ^ kind.bits)) := by
  cases kind with
  | byte => exact congrArg some ((Int8.toInt_toInt64 _).trans z.toInt_toInt8)
  | short => exact congrArg some ((Int16.toInt_toInt64 _).trans z.toInt_toInt16)
  | int => exact congrArg some ((Int32.toInt_toInt64 _).trans z.toInt_toInt32)
  | long =>
      have hlow := z.le_toInt
      have hhigh := z.toInt_lt
      have hfits : z.toInt.bmod (2 ^ 64) = z.toInt := Int.bmod_eq_of_le (by omega) (by omega)
      exact congrArg some hfits.symm
  | float | double | version => cases hkind

theorem Value.eq_finish_of_whole {v : Value} (hkind : v.numKind? = some kind)
    (hv : v.whole? = some x) :
    v = Promotion.finish ⟨some kind⟩ (.long (Int64.ofInt x)) := by
  obtain ⟨n, rfl, rfl⟩ := numKind?_eq_some_iff.mp hkind
  obtain ⟨m, hm, rfl⟩ := whole?_eq_some_iff.mp hv
  rw [Int64.ofInt_toInt]
  cases n with
  | byte n | short n | int n =>
      cases hm
      simp [Promotion.finish, Number.kind, Value.long]
  | long n =>
      cases hm
      rfl
  | float | double | version => cases hm

/-! ## Results -/

theorem foldl_exact_perm (hop : op = .add ∨ op = .mul) {x' : Int} {ys' : List Int}
    (h : (x :: ys).Perm (x' :: ys')) : ys.foldl op.exact x = ys'.foldl op.exact x' := by
  rcases hop with rfl | rfl
  · have hcomm : RightCommutative (ArithOp.exact .add) :=
      ⟨fun a b c => by simp only [ArithOp.exact]; omega⟩
    simpa [ArithOp.exact] using h.foldl_eq (f := ArithOp.exact .add) 0
  · have hcomm : RightCommutative (ArithOp.exact .mul) :=
      ⟨fun a b c => by simp only [ArithOp.exact]; exact Int.mul_right_comm a b c⟩
    simpa [ArithOp.exact] using h.foldl_eq (f := ArithOp.exact .mul) 1

private theorem ArithOp.subset_completed (op : ArithOp) (operands : List Value) :
    operands ⊆ op.completed operands := by
  unfold completed
  split <;> simp

section Integers

variable {operands : List Value} (hwhole : Whole (op.completed operands) (x :: ys))
  (hmany : ys ≠ [])

include hwhole hmany

theorem completed_eq (hsub : op ≠ .sub) (hdiv : op ≠ .div) : op.completed operands = operands := by
  rcases operands with _ | ⟨v, _ | ⟨w, rest⟩⟩
  · have hlength := hwhole.length_eq
    cases op <;> simp [ArithOp.completed, ArithOp.neutral] at hlength
    all_goals exact absurd hlength hmany
  · cases op with
    | add | mul | rem => rfl
    | sub => exact absurd rfl hsub
    | div => exact absurd rfl hdiv
  · exact op.completed_of_le (by simp)

theorem fold_integers :
    ∃ kind first rest, op.completed operands = first :: rest ∧ kind.Widest (op.completed operands) ∧
      kind.isInteger = true ∧ first.whole? = some x ∧ Whole rest ys ∧ rest ≠ [] ∧
      fold op operands = (combineAll ⟨some kind⟩ op first rest).map
        (Promotion.finish ⟨some kind⟩) := by
  have hnumbers : ∀ v ∈ operands, v.numKind?.isSome = true := by
    intro v hv
    obtain ⟨z, hz⟩ := exists_of_forall₂ hwhole (op.subset_completed operands hv)
    exact Value.numKind?_isSome_of_whole hz
  have hcount : op = .rem → 2 ≤ operands.length := by
    rintro rfl
    have hlength := hwhole.length_eq
    have hpos : 0 < ys.length := List.length_pos_iff.mpr hmany
    rw [completed_eq hwhole hmany (by simp) (by simp), List.length_cons] at hlength
    omega
  obtain ⟨kind, first, rest, hcompleted, hwidest, hfold⟩ := fold_eq op hnumbers hcount
  rw [hcompleted] at hwhole ⊢
  obtain ⟨v, hv, hkind⟩ := hwidest.attained
  obtain ⟨z, hz⟩ := exists_of_forall₂ hwhole hv
  obtain ⟨hfirst, hrest⟩ := List.forall₂_cons.mp hwhole
  refine ⟨kind, first, rest, rfl, hwidest, Value.isInteger_of_whole hz hkind, hfirst, hrest,
    ?_, hfold⟩
  rintro rfl
  exact hmany (List.forall₂_nil_left_iff.mp hrest)

theorem fold_eq_error (h : op.BreaksDown x ys) :
    ∃ cause, fold op operands = .error cause ∧ cause.kind = .arithmetic := by
  obtain ⟨kind, first, rest, -, -, hkind, hfirst, hrest, -, hfold⟩ := fold_integers hwhole hmany
  obtain ⟨cause, hcombine, harithmetic⟩ := combineAll_eq_error hkind hfirst hrest h
  exact ⟨cause, by rw [hfold, hcombine]; rfl, harithmetic⟩

theorem fold_eq_ok (h : ¬op.BreaksDown x ys) :
    ∃ result kind, fold op operands = .ok result ∧ result.numKind? = some kind ∧
      kind.Widest (op.completed operands) ∧
      result.whole? = some ((ys.foldl op.exact x).bmod (2 ^ kind.bits)) := by
  obtain ⟨kind, first, rest, -, hwidest, hkind, hfirst, hrest, hmore, hfold⟩ :=
    fold_integers hwhole hmany
  obtain ⟨v, hcombine, hexact, hlong⟩ := combineAll_eq_ok hkind hfirst hrest h
  obtain ⟨z, rfl⟩ := hlong hmore
  have hz : z.toInt = ys.foldl op.exact x := Option.some.inj hexact
  refine ⟨Promotion.finish ⟨some kind⟩ (.long z), kind, by rw [hfold, hcombine]; rfl,
    ?_, hwidest, ?_⟩
  · apply finish_kind
    left
    simp [NumKind.working, hkind, Value.long, Value.numKind?, Value.number?, Number.kind]
  · rw [finish_whole hkind, hz]

private theorem fold_value {result : Value} (hresult : fold op operands = .ok result) :
    ∃ kind, kind.Widest (op.completed operands) ∧ result = Promotion.finish ⟨some kind⟩
      (.long (Int64.ofInt ((ys.foldl op.exact x).bmod (2 ^ kind.bits)))) := by
  have hsound : ¬op.BreaksDown x ys := by
    intro hbroken
    obtain ⟨cause, herror, -⟩ := fold_eq_error hwhole hmany hbroken
    rw [hresult] at herror
    cases herror
  obtain ⟨value, kind, hok, hkind, hwidest, hvalue⟩ := fold_eq_ok hwhole hmany hsound
  rw [hresult] at hok
  cases hok
  exact ⟨kind, hwidest, Value.eq_finish_of_whole hkind hvalue⟩

private theorem fold_perm (hop : op = .add ∨ op = .mul) {others : List Value} {result other : Value}
    (hperm : operands.Perm others) (hresult : fold op operands = .ok result)
    (hother : fold op others = .ok other) : result = other := by
  have hcompleted : op.completed operands = operands := by
    apply completed_eq hwhole hmany
    all_goals rcases hop with rfl | rfl <;> simp
  have hlength := hwhole.length_eq
  have hpos : 0 < ys.length := List.length_pos_iff.mpr hmany
  rw [hcompleted, List.length_cons] at hlength
  have hcompleted' : op.completed others = others :=
    op.completed_of_le (by rw [← hperm.length_eq]; omega)
  obtain ⟨kind, hwidest, rfl⟩ := fold_value hwhole hmany hresult
  -- the other operands stand for the same numbers in another order
  rw [hcompleted] at hwhole hwidest
  obtain ⟨numbers, hnumbers, hnumbersPerm⟩ := List.perm_comp_forall₂ hperm.symm hwhole
  obtain ⟨x', ys', rfl⟩ : ∃ x' ys', numbers = x' :: ys' :=
    List.exists_cons_of_length_pos (by rw [hnumbersPerm.length_eq]; simp)
  have hmany' : ys' ≠ [] := by
    rintro rfl
    have hcount := hnumbersPerm.length_eq
    exact hmany (by simpa using hcount)
  obtain ⟨kind', hwidest', rfl⟩ := fold_value (hcompleted'.symm ▸ hnumbers) hmany' hother
  rw [hcompleted'] at hwidest'
  rw [foldl_exact_perm hop hnumbersPerm,
    hwidest.unique (hwidest'.congr fun v => hperm.symm.mem_iff)]

end Integers

private theorem ArithOp.exact_div_rem (a : Int) {b : Int} (hb : b ≠ 0) :
    b * exact .div a b + exact .rem a b = a ∧ (exact .rem a b).natAbs < b.natAbs ∧
      (0 ≤ a → 0 ≤ exact .rem a b) ∧ (a ≤ 0 → exact .rem a b ≤ 0) := by
  refine ⟨Int.mul_tdiv_add_tmod a b, ?_, Int.tmod_nonneg b, ?_⟩
  · rw [exact, Int.natAbs_tmod]
    exact Nat.mod_lt _ (by omega)
  · intro ha
    have hneg := Int.tmod_nonneg b (show 0 ≤ -a by omega)
    rw [Int.neg_tmod] at hneg
    simp only [exact]
    omega

/-- Operators on at least two integers, counting the one that comes before a single operand of
subtraction or division. An operator fails with an arithmetic failure if and only if some step from
the left to the right divides by zero or has an exact result, or for remainders an exact quotient,
outside the signed numbers of 64 bits. Otherwise it gives the number of the greatest kind among its
operands that is congruent to the exact result. Sums and products that succeed do not depend on the
order. Quotients are truncated, and remainders have the sign of the dividend. -/
theorem fold_exact (op : ArithOp) {operands : List Value} {x : Int} {ys : List Int}
    (hwhole : Whole (op.completed operands) (x :: ys)) (hmany : ys ≠ []) :
    ((∃ cause, fold op operands = .error cause ∧ cause.kind = .arithmetic) ↔ op.BreaksDown x ys) ∧
    (¬op.BreaksDown x ys → ∃ result kind z, fold op operands = .ok result ∧
      result.numKind? = some kind ∧ kind.Widest (op.completed operands) ∧ result.whole? = some z ∧
      z ≡ ys.foldl op.exact x [ZMOD 2 ^ kind.bits]) ∧
    (op = .add ∨ op = .mul → ∀ others result other, operands.Perm others →
      fold op operands = .ok result → fold op others = .ok other → result = other) ∧
    ∀ a b : Int, b ≠ 0 → b * ArithOp.exact .div a b + ArithOp.exact .rem a b = a ∧
      (ArithOp.exact .rem a b).natAbs < b.natAbs ∧
      (0 ≤ a → 0 ≤ ArithOp.exact .rem a b) ∧ (a ≤ 0 → ArithOp.exact .rem a b ≤ 0) := by
  refine ⟨⟨?_, fold_eq_error hwhole hmany⟩, ?_, ?_, fun a b => ArithOp.exact_div_rem a⟩
  · rintro ⟨cause, hfold, -⟩
    by_contra hsound
    obtain ⟨result, kind, hok, -⟩ := fold_eq_ok hwhole hmany hsound
    rw [hfold] at hok
    cases hok
  · intro hsound
    obtain ⟨result, kind, hfold, hkind, hwidest, hresult⟩ := fold_eq_ok hwhole hmany hsound
    refine ⟨result, kind, _, hfold, hkind, hwidest, hresult, ?_⟩
    exact_mod_cast Int.bmod_emod
  · intro hop others result other hperm hresult hother
    exact fold_perm hwhole hmany hop hperm hresult hother

/-- The least long has no opposite. Three bytes that add up to 300 give the byte 44. -/
theorem fold_exact_least_long :
    let least : Value := .long (-9223372036854775808)
    let bytes : List Value := [.number (.byte 100), .number (.byte 100), .number (.byte 100)]
    (Whole (ArithOp.sub.completed [least]) [0, -2 ^ 63] ∧ ArithOp.sub.BreaksDown 0 [-2 ^ 63] ∧
      ∃ cause, fold .sub [least] = .error cause ∧ cause.kind = .arithmetic) ∧
    Whole (ArithOp.add.completed bytes) [100, 100, 100] ∧
      fold .add bytes = .ok (.number (.byte 44)) ∧
      ∃ result kind z, fold .add bytes = .ok result ∧ result.numKind? = some kind ∧
        kind.Widest (ArithOp.add.completed bytes) ∧ result.whole? = some z ∧
        z ≡ 300 [ZMOD 2 ^ kind.bits] := by
  intro least bytes
  have hleast : Whole (ArithOp.sub.completed [least]) [0, -2 ^ 63] :=
    .cons rfl (.cons rfl .nil)
  have hbytes : Whole (ArithOp.add.completed bytes) [100, 100, 100] :=
    .cons rfl (.cons rfl (.cons rfl .nil))
  have hbroken : ArithOp.sub.BreaksDown 0 [-2 ^ 63] := ⟨[], -2 ^ 63, [], rfl, .inr (by simp)⟩
  have hsound : ¬ArithOp.add.BreaksDown 100 [100, 100] := by
    simp [ArithOp.breaksDown_cons, ArithOp.breaksDown_nil, ArithOp.Breaks, ArithOp.exact,
      OverflowsLong]
  exact ⟨⟨hleast, hbroken, (fold_exact .sub hleast (by simp)).1.mpr hbroken⟩, hbytes, rfl,
    (fold_exact .add hbytes (by simp)).2.1 hsound⟩

end LispEngine
