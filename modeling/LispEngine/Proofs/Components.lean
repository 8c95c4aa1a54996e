import LispEngine.Proofs.Integers
import Mathlib.Data.List.GetD

/-!
# Sums and differences of versions

Versions are added and subtracted component by component, and an integer counts as a version of one
component. Every step checks every component. All these checks together come to one condition on the
total at each place, because a total only grows on the way to it.
-/

namespace LispEngine

/-! ## Components -/

def Version.components (version : Version) : List Nat := version.parts.map UInt64.toNat

/-- The components of an operand as a version. An integer that is not negative is its only
component. -/
def Value.components? : Value → Option (List Nat)
  | .number (.version version) => some version.components
  | v => v.whole?.bind fun z => if 0 ≤ z then some [z.toNat] else none

abbrev Composed (operands : List Value) (components : List (List Nat)) : Prop :=
  List.Forall₂ (fun v parts => v.components? = some parts) operands components

def componentAt (parts : List Nat) (place : Nat) : Nat := parts.getD place 0

def totalAt (components : List (List Nat)) (place : Nat) : Nat :=
  (components.map fun parts => componentAt parts place).sum

def longest (components : List (List Nat)) : Nat := (components.map List.length).foldr max 0

@[simp] theorem totalAt_nil (place : Nat) : totalAt [] place = 0 := rfl

@[simp] theorem totalAt_cons (parts : List Nat) (components : List (List Nat)) (place : Nat) :
    totalAt (parts :: components) place = componentAt parts place + totalAt components place := by
  simp [totalAt]

@[simp] theorem longest_nil : longest [] = 0 := rfl

@[simp] theorem longest_cons (parts : List Nat) (components : List (List Nat)) :
    longest (parts :: components) = max parts.length (longest components) := rfl

section Reordered

variable {components reordered : List (List Nat)} (h : components.Perm reordered)

include h

theorem totalAt_perm (place : Nat) : totalAt reordered place = totalAt components place :=
  (h.map _).sum_nat.symm

theorem longest_perm : longest reordered = longest components :=
  ((h.map List.length).foldr_eq 0).symm

end Reordered

namespace Version

@[simp] theorem length_components (version : Version) :
    version.components.length = version.parts.length := List.length_map _

theorem componentAt_components (version : Version) (place : Nat) :
    componentAt version.components place = (version.parts.getD place 0).toNat := by
  simp only [componentAt, components, List.getD_eq_getElem?_getD, List.getElem?_map]
  cases version.parts[place]? <;> rfl

theorem componentAt_lt (version : Version) (place : Nat) :
    componentAt version.components place < 2 ^ 64 := by
  rw [componentAt_components]
  exact UInt64.toNat_lt _

theorem eq_of_components {a b : Version} (hlength : a.parts.length = b.parts.length)
    (h : ∀ place, componentAt a.components place = componentAt b.components place) : a = b := by
  have hparts : a.parts = b.parts := by
    apply List.ext_getElem hlength
    intro place ha hb
    have hplace := h place
    rw [componentAt_components, componentAt_components] at hplace
    simpa [ha, hb] using UInt64.toNat_inj.mp hplace
  cases a
  cases b
  exact congrArg mk hparts

end Version

theorem Value.components?_cases {v : Value} {parts : List Nat} (h : v.components? = some parts) :
    (∃ version, v = .number (.version version) ∧ version.components = parts) ∨
    ∃ n : Int64, v.toInt64? = some n ∧ 0 ≤ n.toInt ∧ v.versionOperand = .ok ⟨[n.toUInt64]⟩ ∧
      [n.toInt.toNat] = parts := by
  have hinteger {n : Int64} (hn : v.toInt64? = some n)
      (hoperand : v.versionOperand =
        if 0 ≤ n.toInt then .ok ⟨[n.toUInt64]⟩ else .error (.negativeVersion n))
      (hparts : (v.whole?.bind fun z => if 0 ≤ z then some [z.toNat] else none) = some parts) :
      ∃ n : Int64, v.toInt64? = some n ∧ 0 ≤ n.toInt ∧ v.versionOperand = .ok ⟨[n.toUInt64]⟩ ∧
        [n.toInt.toNat] = parts := by
    simp only [whole?, hn, Option.map_some, Option.bind_some] at hparts
    split at hparts
    · rename_i hpos
      exact ⟨n, hn, hpos, by rw [hoperand, if_pos hpos], Option.some.inj hparts⟩
    · cases hparts
  cases v with
  | number n =>
      cases n with
      | version version => exact .inl ⟨version, rfl, Option.some.inj h⟩
      | byte n => exact .inr (hinteger rfl rfl h)
      | short n => exact .inr (hinteger rfl rfl h)
      | int n => exact .inr (hinteger rfl rfl h)
      | long n => exact .inr (hinteger rfl rfl h)
      | float x => simp [components?, whole?, toInt64?, number?, Number.toInt64?] at h
      | double x => simp [components?, whole?, toInt64?, number?, Number.toInt64?] at h
  | _ => simp [components?, whole?, toInt64?, number?] at h

theorem toNat_toUInt64 {n : Int64} (h : 0 ≤ n.toInt) : n.toUInt64.toNat = n.toInt.toNat := by
  rw [Int64.toNat_toUInt64_of_le (Int64.le_iff_toInt_le.mpr h), Int64.toNat_toInt]

theorem Value.versionOperand_of_components {v : Value} {parts : List Nat}
    (h : v.components? = some parts) :
    ∃ version, v.versionOperand = .ok version ∧ version.components = parts := by
  rcases components?_cases h with ⟨version, rfl, hparts⟩ | ⟨n, -, hpos, hoperand, hparts⟩
  · exact ⟨version, rfl, hparts⟩
  · refine ⟨⟨[n.toUInt64]⟩, hoperand, ?_⟩
    rw [← hparts, ← toNat_toUInt64 hpos]
    rfl

theorem Value.numKind?_isSome_of_components {v : Value} {parts : List Nat}
    (h : v.components? = some parts) : v.numKind?.isSome = true := by
  rcases components?_cases h with ⟨version, rfl, -⟩ | ⟨n, hn, -⟩
  · rfl
  · exact numKind?_isSome_of_whole (whole?_eq_some_iff.mpr ⟨n, hn, rfl⟩)

theorem NumKind.Widest.eq_version {kind : NumKind} {operands : List Value}
    (h : kind.Widest operands) (hversion : ∃ version, .number (.version version) ∈ operands) :
    kind = .version := by
  obtain ⟨version, hmem⟩ := hversion
  have hle := h.bounds hmem rfl
  cases kind <;> first | rfl | simp [rank, Number.kind] at hle

/-! ## One step -/

namespace Version

private theorem zipParts_step (f : UInt64 → UInt64 → Option UInt64) {xs ys : List UInt64}
    (h : 0 < max xs.length ys.length) :
    zipParts f xs ys = (f (xs.getD 0 0) (ys.getD 0 0)).bind fun z =>
      (zipParts f xs.tail ys.tail).map (z :: ·) := by
  cases xs <;> cases ys
  · simp at h
  all_goals
    simp only [zipParts, List.getD_cons_zero, List.getD_nil, List.tail_cons, List.tail_nil,
      Option.map_eq_bind]
    rfl

theorem zipParts_cases (f : UInt64 → UInt64 → Option UInt64) (xs ys : List UInt64) :
    (∃ zs, zipParts f xs ys = some zs ∧ zs.length = max xs.length ys.length ∧
      ∀ place < zs.length, f (xs.getD place 0) (ys.getD place 0) = some (zs.getD place 0)) ∨
    zipParts f xs ys = none ∧ ∃ place, f (xs.getD place 0) (ys.getD place 0) = none := by
  induction hcount : max xs.length ys.length generalizing xs ys with
  | zero =>
      obtain rfl : xs = [] := List.eq_nil_of_length_eq_zero (by omega)
      obtain rfl : ys = [] := List.eq_nil_of_length_eq_zero (by omega)
      exact .inl ⟨[], by rw [zipParts], rfl, by simp⟩
  | succ count ih =>
      have htail (zs : List UInt64) (place : Nat) :
        zs.tail.getD place 0 = zs.getD (place + 1) 0 := by
        cases zs <;> simp
      rw [zipParts_step f (by omega)]
      cases hfirst : f (xs.getD 0 0) (ys.getD 0 0) with
      | none => exact .inr ⟨rfl, 0, hfirst⟩
      | some z =>
          have hlength : max xs.tail.length ys.tail.length = count := by
            simp only [List.length_tail]
            omega
          rcases ih xs.tail ys.tail hlength with ⟨zs, hzip, hzs, hplaces⟩ | ⟨hzip, place, hplace⟩
          · refine .inl ⟨z :: zs, by simp [hzip], by simp [hzs], ?_⟩
            intro place hplace
            cases place with
            | zero => exact hfirst
            | succ place =>
                rw [← htail, ← htail]
                exact hplaces place (Nat.lt_of_succ_lt_succ hplace)
          · rw [htail, htail] at hplace
            exact .inr ⟨by simp [hzip], place + 1, hplace⟩

end Version

namespace ArithOp

/-- An amount that cannot be added to a component, or taken from it. -/
def Overruns : ArithOp → Nat → Nat → Prop
  | sub, x, amount => x < amount
  | _, x, amount => 2 ^ 64 ≤ x + amount

def onParts : ArithOp → UInt64 → UInt64 → Option UInt64
  | sub => Version.subPart
  | _ => Version.addPart

variable {op : ArithOp} (hop : op = .add ∨ op = .sub)

include hop

private theorem onParts_eq_none {x y : UInt64} (h : op.onParts x y = none) :
    op.Overruns x.toNat y.toNat := by
  rcases hop with rfl | rfl
  · simp only [onParts, Version.addPart] at h
    split at h
    · cases h
    · simp only [Overruns]
      simp only [Text.wordBound] at *
      omega
  · simp only [onParts, Version.subPart, UInt64.le_iff_toNat_le] at h
    simp only [Overruns]
    split at h
    · cases h
    · omega

private theorem onParts_eq_some {x y z : UInt64} (h : op.onParts x y = some z) :
    ¬op.Overruns x.toNat y.toNat ∧ (z.toNat : Int) = op.exact x.toNat y.toNat := by
  rcases hop with rfl | rfl
  · simp only [onParts, Version.addPart] at h
    split at h
    · rename_i hlt
      obtain rfl := Option.some.inj h
      simp only [Text.wordBound] at hlt
      simp only [Overruns, exact, UInt64.toNat_add]
      omega
    · cases h
  · simp only [onParts, Version.subPart] at h
    simp only [Overruns, exact]
    split at h
    · rename_i hle
      obtain rfl := Option.some.inj h
      rw [UInt64.toNat_sub_of_le x y hle]
      rw [UInt64.le_iff_toNat_le] at hle
      omega
    · cases h

private theorem applyVersion_eq (x y : Version) :
    op.applyVersion x y = ((Version.zipParts op.onParts x.parts y.parts).map Version.mk).elim
      (.error (.versionOverflow x op y)) .ok := by
  rcases hop with rfl | rfl
  · simp only [applyVersion, Version.add?]
    show _ = ((Version.zipParts Version.addPart x.parts y.parts).map Version.mk).elim _ _
    cases Version.zipParts Version.addPart x.parts y.parts <;> rfl
  · simp only [applyVersion, Version.sub?]
    show _ = ((Version.zipParts Version.subPart x.parts y.parts).map Version.mk).elim _ _
    cases Version.zipParts Version.subPart x.parts y.parts <;> rfl

theorem applyVersion_cases (x y : Version) :
    (∃ z, op.applyVersion x y = .ok z ∧ z.parts.length = max x.parts.length y.parts.length ∧
      ∀ place, ¬op.Overruns (componentAt x.components place) (componentAt y.components place) ∧
        (componentAt z.components place : Int) =
          op.exact (componentAt x.components place) (componentAt y.components place)) ∨
    ∃ cause, op.applyVersion x y = .error cause ∧ cause.kind = .arithmetic ∧
      ∃ place, op.Overruns (componentAt x.components place) (componentAt y.components place) := by
  rw [applyVersion_eq hop]
  simp only [Version.componentAt_components]
  rcases Version.zipParts_cases op.onParts x.parts y.parts with
    ⟨zs, hzip, hlength, hplaces⟩ | ⟨hzip, place, hplace⟩
  · refine .inl ⟨⟨zs⟩, by rw [hzip]; rfl, hlength, ?_⟩
    intro place
    apply onParts_eq_some hop
    by_cases hplace : place < zs.length
    · exact hplaces place hplace
    · -- past the end of the longer version there are only zeros
      have hpast : zs.length ≤ place := by omega
      rw [List.getD_eq_default _ _ (by omega), List.getD_eq_default _ _ (by omega),
        List.getD_eq_default zs _ hpast]
      rcases hop with rfl | rfl <;> decide
  · exact .inr ⟨_, by rw [hzip]; rfl, rfl, place, onParts_eq_none hop hplace⟩

/-! ## All steps -/

theorem overruns_add {x y z : Nat} (hz : (z : Int) = op.exact x y) (amount : Nat) :
    op.Overruns x (y + amount) ↔ op.Overruns z amount := by
  rcases hop with rfl | rfl <;> simp only [Overruns, exact] at hz ⊢ <;> omega

theorem Overruns.add {x y : Nat} (h : op.Overruns x y) (amount : Nat) :
    op.Overruns x (y + amount) := by
  rcases hop with rfl | rfl <;> simp only [Overruns] at h ⊢ <;> omega

private theorem exact_add {x y z : Nat} (hz : (z : Int) = op.exact x y) (amount : Nat) :
    op.exact x ((y + amount : Nat) : Int) = op.exact z amount := by
  rcases hop with rfl | rfl <;> simp only [exact] at hz ⊢ <;> omega

end ArithOp

/-- An operation on versions ends as the totals say: with the exact results at all places, as far as
the longest operand goes, or with a failure because some place overruns. -/
def Totalled (op : ArithOp) (first : List Nat) (others : List (List Nat)) :
    Except Cause Value → Prop
  | .ok v => ∃ version, v = .number (.version version) ∧
      version.parts.length = longest (first :: others) ∧
      ∀ place, ¬op.Overruns (componentAt first place) (totalAt others place) ∧
        (componentAt version.components place : Int) =
          op.exact (componentAt first place) (totalAt others place)
  | .error cause => cause.kind = .arithmetic ∧
      ∃ place, op.Overruns (componentAt first place) (totalAt others place)

section Totals

variable {op : ArithOp} (hop : op = .add ∨ op = .sub)

include hop

private theorem combineAll_totalled (x : Version) {rest : List Value} {others : List (List Nat)}
    (hrest : Composed rest others) :
    Totalled op x.components others
      (combineAll ⟨some .version⟩ op (.number (.version x)) rest) := by
  induction hrest generalizing x with
  | nil =>
      refine ⟨x, rfl, by simp, ?_⟩
      intro place
      have hlt := x.componentAt_lt place
      rcases hop with rfl | rfl <;>
        simp only [ArithOp.Overruns, ArithOp.exact, totalAt_nil] <;> omega
  | @cons v parts rest others hv _ ih =>
      obtain ⟨y, hy, rfl⟩ := Value.versionOperand_of_components hv
      have hstep : Promotion.combine ⟨some .version⟩ op (.number (.version x)) v =
          (op.applyVersion x y).map fun z => .number (.version z) := by
        simp only [Promotion.combine, Promotion.workKind, Option.getD_some, hy]
        rfl
      rw [combineAll, hstep]
      rcases ArithOp.applyVersion_cases hop x y with
        ⟨z, hz, hlength, hplaces⟩ | ⟨cause, herror, harithmetic, place, hplace⟩
      · -- from here on the components of `z` stand for those of `x` and `y`
        have hlater := ih z
        rw [hz]
        show Totalled op x.components (y.components :: others)
          (combineAll ⟨some .version⟩ op (.number (.version z)) rest)
        revert hlater
        cases combineAll ⟨some .version⟩ op (.number (.version z)) rest with
        | error cause =>
            rintro ⟨harithmetic, place, hplace⟩
            refine ⟨harithmetic, place, ?_⟩
            rw [totalAt_cons]
            exact (ArithOp.overruns_add hop (hplaces place).2 _).mpr hplace
        | ok v =>
            rintro ⟨version, rfl, hversion, htotals⟩
            refine ⟨version, rfl, ?_, ?_⟩
            · simp only [longest_cons, Version.length_components] at hversion ⊢
              omega
            · intro place
              obtain ⟨hfits, hexact⟩ := htotals place
              rw [totalAt_cons, ArithOp.exact_add hop (hplaces place).2]
              exact ⟨fun hover => hfits ((ArithOp.overruns_add hop (hplaces place).2 _).mp hover),
                hexact⟩
      · rw [herror]
        refine ⟨harithmetic, place, ?_⟩
        rw [totalAt_cons]
        exact ArithOp.Overruns.add hop hplace _

variable {operands : List Value} {first : List Nat} {others : List (List Nat)}
  (hoperands : Composed operands (first :: others)) (hmany : others ≠ [])
  (hversion : ∃ version, .number (.version version) ∈ operands)

include hoperands hmany hversion

theorem fold_totalled : Totalled op first others (fold op operands) := by
  have hnumbers : ∀ v ∈ operands, v.numKind?.isSome = true := by
    intro v hv
    obtain ⟨parts, hparts⟩ := exists_of_forall₂ hoperands hv
    exact Value.numKind?_isSome_of_components hparts
  have hlength : 2 ≤ operands.length := by
    have hpos : 0 < others.length := List.length_pos_iff.mpr hmany
    rw [hoperands.length_eq, List.length_cons]
    omega
  obtain ⟨kind, v, rest, hcompleted, hwidest, hfold⟩ := fold_eq op hnumbers fun _ => hlength
  rw [op.completed_of_le hlength] at hcompleted
  subst hcompleted
  obtain rfl : kind = .version := hwidest.eq_version hversion
  obtain ⟨hv, hrest⟩ := List.forall₂_cons.mp hoperands
  obtain ⟨x, hx, rfl⟩ := Value.versionOperand_of_components hv
  -- the first operand only matters as the version that it stands for
  have hfirst : combineAll ⟨some .version⟩ op v rest =
      combineAll ⟨some .version⟩ op (.number (.version x)) rest := by
    cases rest with
    | nil => exact absurd (List.forall₂_nil_left_iff.mp hrest) hmany
    | cons w rest =>
        simp only [combineAll, Promotion.combine, Promotion.workKind, Option.getD_some, hx]
        rfl
  have htotalled := combineAll_totalled hop x hrest
  rw [hfold, hfirst]
  revert htotalled
  cases combineAll ⟨some .version⟩ op (.number (.version x)) rest with
  | error cause => exact id
  | ok v =>
      rintro ⟨version, rfl, hversion⟩
      exact ⟨version, rfl, hversion⟩

theorem fold_fails_iff : (∃ cause, fold op operands = .error cause ∧ cause.kind = .arithmetic) ↔
    ∃ place, op.Overruns (componentAt first place) (totalAt others place) := by
  have htotalled := fold_totalled hop hoperands hmany hversion
  constructor
  · rintro ⟨cause, hfold, -⟩
    rw [hfold] at htotalled
    exact htotalled.2
  · rintro ⟨place, hplace⟩
    cases hfold : fold op operands with
    | error cause =>
        rw [hfold] at htotalled
        exact ⟨cause, rfl, htotalled.1⟩
    | ok v =>
        rw [hfold] at htotalled
        obtain ⟨version, -, -, hplaces⟩ := htotalled
        exact absurd hplace (hplaces place).1

theorem fold_gives (h : ∀ place, ¬op.Overruns (componentAt first place) (totalAt others place)) :
    ∃ version, fold op operands = .ok (.number (.version version)) ∧
      version.parts.length = longest (first :: others) ∧
      ∀ place, (componentAt version.components place : Int) =
        op.exact (componentAt first place) (totalAt others place) := by
  have htotalled := fold_totalled hop hoperands hmany hversion
  cases hfold : fold op operands with
  | error cause =>
      rw [hfold] at htotalled
      obtain ⟨-, place, hplace⟩ := htotalled
      exact absurd hplace (h place)
  | ok v =>
      rw [hfold] at htotalled
      obtain ⟨version, rfl, hlength, hplaces⟩ := htotalled
      exact ⟨version, rfl, hlength, fun place => (hplaces place).2⟩

omit hop

theorem fold_add_fails_iff :
    (∃ cause, fold .add operands = .error cause ∧ cause.kind = .arithmetic) ↔
    ∃ place, 2 ^ 64 ≤ totalAt (first :: others) place := by
  have hfails := fold_fails_iff (.inl rfl) hoperands hmany hversion
  simp only [ArithOp.Overruns] at hfails
  simpa only [totalAt_cons] using hfails

theorem fold_add_gives (h : ∀ place, totalAt (first :: others) place < 2 ^ 64) :
    ∃ version, fold .add operands = .ok (.number (.version version)) ∧
      version.parts.length = longest (first :: others) ∧
      ∀ place, componentAt version.components place = totalAt (first :: others) place := by
  have hfits : ∀ place, ¬ArithOp.add.Overruns (componentAt first place) (totalAt others place) := by
    intro place hover
    have hplace := h place
    simp only [ArithOp.Overruns, totalAt_cons] at hover hplace
    omega
  obtain ⟨version, hfold, hlength, hplaces⟩ := fold_gives (.inl rfl) hoperands hmany hversion hfits
  refine ⟨version, hfold, hlength, ?_⟩
  intro place
  have hplace := hplaces place
  simp only [ArithOp.exact, totalAt_cons] at hplace ⊢
  omega

private theorem fold_add_perm {reordered : List Value} (hperm : operands.Perm reordered) :
    (fold .add reordered).mapError CauseOf.kind = (fold .add operands).mapError CauseOf.kind := by
  have hversion' : ∃ version, .number (.version version) ∈ reordered := by
    simpa only [hperm.mem_iff] using hversion
  obtain ⟨components, hreordered, hcomponents⟩ := List.perm_comp_forall₂ hperm.symm hoperands
  obtain ⟨first', others', rfl⟩ : ∃ first' others', components = first' :: others' :=
    List.exists_cons_of_length_pos (by rw [hcomponents.length_eq]; simp)
  have hmany' : others' ≠ [] := by
    rintro rfl
    have hcount := hcomponents.length_eq
    exact hmany (by simpa using hcount)
  have htotals := totalAt_perm hcomponents
  by_cases hfits : ∀ place, totalAt (first :: others) place < 2 ^ 64
  · obtain ⟨version, hfold, hlength, hplaces⟩ := fold_add_gives hoperands hmany hversion hfits
    obtain ⟨version', hfold', hlength', hplaces'⟩ :=
      fold_add_gives hreordered hmany' hversion' fun place => htotals place ▸ hfits place
    have hsame : version' = version := by
      apply Version.eq_of_components
      · rw [hlength, hlength', longest_perm hcomponents]
      · intro place
        rw [hplaces, hplaces', htotals]
    rw [hfold, hfold', hsame]
  · obtain ⟨place, hplace⟩ := not_forall.mp hfits
    obtain ⟨cause, hfold, hkind⟩ := (fold_add_fails_iff hoperands hmany hversion).mpr
      ⟨place, Nat.le_of_not_lt hplace⟩
    obtain ⟨cause', hfold', hkind'⟩ := (fold_add_fails_iff hreordered hmany' hversion').mpr
      ⟨place, htotals place ▸ Nat.le_of_not_lt hplace⟩
    rw [hfold, hfold']
    exact congrArg Except.error (hkind'.trans hkind.symm)

end Totals

/-- Sums and differences of at least two operands, of which each is a version or an integer that is
not negative and one at least is a version. A sum fails with an arithmetic failure if and only if
the total at some place is no unsigned number of 64 bits, and is otherwise the version of these
totals, with as many components as the longest operand has. So the order of the operands does not
matter, neither for the result nor for the kind of the failure. A difference fails with an
arithmetic failure if and only if at some place the first operand has less than the others together,
and is otherwise the version of the differences. -/
theorem fold_componentwise {operands : List Value} {first : List Nat} {others : List (List Nat)}
    (hoperands : Composed operands (first :: others)) (hmany : others ≠ [])
    (hversion : ∃ version, .number (.version version) ∈ operands) :
    ((∃ cause, fold .add operands = .error cause ∧ cause.kind = .arithmetic) ↔
      ∃ place, 2 ^ 64 ≤ totalAt (first :: others) place) ∧
    ((∀ place, totalAt (first :: others) place < 2 ^ 64) →
      ∃ version, fold .add operands = .ok (.number (.version version)) ∧
        version.parts.length = longest (first :: others) ∧
        ∀ place, componentAt version.components place = totalAt (first :: others) place) ∧
    (∀ reordered, operands.Perm reordered →
      (fold .add reordered).mapError CauseOf.kind = (fold .add operands).mapError CauseOf.kind) ∧
    ((∃ cause, fold .sub operands = .error cause ∧ cause.kind = .arithmetic) ↔
      ∃ place, componentAt first place < totalAt others place) ∧
    ((∀ place, totalAt others place ≤ componentAt first place) →
      ∃ version, fold .sub operands = .ok (.number (.version version)) ∧
        version.parts.length = longest (first :: others) ∧
        ∀ place, componentAt version.components place =
          componentAt first place - totalAt others place) := by
  refine ⟨fold_add_fails_iff hoperands hmany hversion, fold_add_gives hoperands hmany hversion,
    fun reordered => fold_add_perm hoperands hmany hversion,
    fold_fails_iff (.inr rfl) hoperands hmany hversion, ?_⟩
  intro hfits
  obtain ⟨version, hfold, hlength, hplaces⟩ := fold_gives (.inr rfl) hoperands hmany hversion
    fun place => Nat.not_lt.mpr (hfits place)
  refine ⟨version, hfold, hlength, ?_⟩
  intro place
  have hplace := hplaces place
  simp only [ArithOp.exact] at hplace
  omega

/-- The greatest component next to a long and to the version without components. One more component
in the last operand, and the sum fails. -/
theorem fold_componentwise_greatest_component :
    let greatest : Value := .number (.version ⟨[7, 18446744073709551615]⟩)
    let fitting : List Value := [greatest, .long 5, .number (.version ⟨[]⟩)]
    let overrunning : List Value := [greatest, .long 5, .number (.version ⟨[0, 1]⟩)]
    Composed fitting [[7, 18446744073709551615], [5], []] ∧
    (∃ version, fold .add fitting = .ok (.number (.version version)) ∧ version.parts.length = 2 ∧
      ∀ place, componentAt version.components place =
        totalAt [[7, 18446744073709551615], [5], []] place) ∧
    (∃ version, fold .sub fitting = .ok (.number (.version version)) ∧ version.parts.length = 2 ∧
      ∀ place, componentAt version.components place =
        componentAt [7, 18446744073709551615] place - totalAt [[5], []] place) ∧
    Composed overrunning [[7, 18446744073709551615], [5], [0, 1]] ∧
    ∃ cause, fold .add overrunning = .error cause ∧ cause.kind = .arithmetic := by
  intro greatest fitting overrunning
  have hfitting : Composed fitting [[7, 18446744073709551615], [5], []] :=
    .cons rfl (.cons rfl (.cons rfl .nil))
  have hoverrunning : Composed overrunning [[7, 18446744073709551615], [5], [0, 1]] :=
    .cons rfl (.cons rfl (.cons rfl .nil))
  have hversion {rest : List Value} : ∃ version, .number (.version version) ∈ greatest :: rest :=
    ⟨_, List.mem_cons_self⟩
  have htotals := fold_componentwise hfitting (by simp) hversion
  have hlow : ∀ place, totalAt [[7, 18446744073709551615], [5], []] place < 2 ^ 64 := by
    rintro (_ | _ | place) <;> simp [componentAt]
  have hhigh : ∀ place, totalAt [[5], []] place ≤ componentAt [7, 18446744073709551615] place := by
    rintro (_ | _ | place) <;> simp [componentAt]
  exact ⟨hfitting, htotals.2.1 hlow, htotals.2.2.2.2 hhigh, hoverrunning,
    (fold_componentwise hoverrunning (by simp) hversion).1.mpr ⟨1, by decide⟩⟩

end LispEngine
