import LispEngine.Proofs.Components
import Mathlib.Data.List.Chain
import Mathlib.Data.List.DropRight

/-!
# Comparing versions and integers

Versions are compared without the zeros at their ends, which is the lexicographic order of their
components with zeros behind the shorter one. A comparison of several operands works in a kind that
depends on all of them. Its answer still depends only on its neighbours, since integers that are not
negative are in the same order as the versions that they stand for.
-/

namespace LispEngine

/-! ## The order of versions -/

namespace Version

def padded (version : Version) (length : Nat) : List UInt64 := version.parts.rightpad length 0

def trimmed (parts : List UInt64) : List UInt64 := parts.rdropWhile (· == 0)

theorem trimmed_append_replicate (parts : List UInt64) (count : Nat) :
    trimmed (parts ++ List.replicate count 0) = trimmed parts := by
  induction count with
  | zero => simp
  | succ count ih =>
      rw [List.replicate_succ', ← List.append_assoc, trimmed, List.rdropWhile_concat_pos _ _ _ rfl]
      exact ih

theorem trimmed_padded (version : Version) (length : Nat) :
    trimmed (version.padded length) = version.significant :=
  trimmed_append_replicate _ _

private theorem trimmed_cons (x : UInt64) (xs : List UInt64) :
    trimmed (x :: xs) = if trimmed xs = [] ∧ x = 0 then [] else x :: trimmed xs := by
  simp only [trimmed, List.rdropWhile, List.reverse_cons, List.dropWhile_append, List.isEmpty_iff,
    List.reverse_eq_nil_iff]
  by_cases hrest : List.dropWhile (· == 0) xs.reverse = []
  · by_cases hx : x = 0 <;> simp [hrest, hx]
  · simp [hrest]

private theorem compareParts_eq (xs ys : List UInt64) : compareParts xs ys = Ord.compare xs ys := by
  induction xs generalizing ys with
  | nil => cases ys <;> rfl
  | cons x xs ih =>
      cases ys with
      | nil => rfl
      | cons y ys =>
          rw [compareParts, List.compare_cons_cons, ih]
          by_cases hlt : x < y
          · rw [if_pos hlt, Std.compare_eq_lt.mpr hlt]
            rfl
          · by_cases hgt : y < x
            · rw [if_neg hlt, if_pos hgt, Std.compare_eq_gt.mpr hgt]
              rfl
            · obtain rfl : x = y := UInt64.le_antisymm (UInt64.not_lt.mp hgt) (UInt64.not_lt.mp hlt)
              rw [if_neg hlt, if_neg hgt, Std.ReflOrd.compare_self]
              rfl

private theorem compare_zero_nil {x : UInt64} {xs : List UInt64} (h : ¬(xs = [] ∧ x = 0)) :
    (Ord.compare 0 x).then (Ord.compare [] xs) = .lt := by
  by_cases hzero : x = 0
  · obtain ⟨y, ys, rfl⟩ := List.exists_cons_of_ne_nil fun hnil => h ⟨hnil, hzero⟩
    rw [hzero, Std.ReflOrd.compare_self, List.compare_nil_cons]
    rfl
  · rw [Std.compare_eq_lt.mpr (UInt64.pos_iff_ne_zero.mpr hzero)]
    rfl

private theorem compare_trimmed {xs ys : List UInt64} (h : xs.length = ys.length) :
    Ord.compare (trimmed xs) (trimmed ys) = Ord.compare xs ys := by
  induction xs generalizing ys with
  | nil => rw [List.eq_nil_of_length_eq_zero h.symm]; rfl
  | cons x xs ih =>
      obtain ⟨y, ys, rfl⟩ := List.exists_cons_of_length_eq_add_one h.symm
      rw [trimmed_cons, trimmed_cons, List.compare_cons_cons, ← ih (Nat.succ.inj h)]
      by_cases hx : trimmed xs = [] ∧ x = 0 <;> by_cases hy : trimmed ys = [] ∧ y = 0
      · rw [if_pos hx, if_pos hy, hx.1, hx.2, hy.1, hy.2]
        rfl
      · rw [if_pos hx, if_neg hy, hx.1, hx.2, compare_zero_nil hy, List.compare_nil_cons]
      · rw [if_neg hx, if_pos hy, hy.1, hy.2, Std.OrientedOrd.eq_swap (a := x),
          Std.OrientedOrd.eq_swap (a := trimmed xs), ← Ordering.swap_then, compare_zero_nil hx]
        rfl
      · rw [if_neg hx, if_neg hy, List.compare_cons_cons]

theorem compare_eq (a b : Version) : a.compare b = Ord.compare a.significant b.significant :=
  compareParts_eq _ _

theorem compare_eq_padded (a b : Version) :
    a.compare b = Ord.compare (a.padded (max a.parts.length b.parts.length))
      (b.padded (max a.parts.length b.parts.length)) := by
  rw [← compare_trimmed (by simp [padded]), trimmed_padded, trimmed_padded, compare_eq]

instance : Std.TransCmp Version.compare where
  eq_swap {a b} := by
    rw [compare_eq, compare_eq]
    exact Std.OrientedOrd.eq_swap
  isLE_trans {a b c} hab hbc := by
    rw [compare_eq] at *
    exact Std.TransOrd.isLE_trans hab hbc

theorem equal_iff (a b : Version) : a.equal b = true ↔ a.compare b = .eq := by
  rw [compare_eq, equal, beq_iff_eq]
  exact Std.LawfulEqOrd.compare_eq_iff_eq.symm

theorem equal_of_isLE {a b : Version} (h : (a.compare b).isLE = true)
    (h' : (b.compare a).isLE = true) :
    a.equal b = true :=
  (equal_iff a b).mpr (Std.OrientedCmp.isLE_antisymm h h')

theorem isLE_or_isLE (a b : Version) : (a.compare b).isLE = true ∨ (b.compare a).isLE = true := by
  have hswap : b.compare a = (a.compare b).swap := Std.OrientedCmp.eq_swap
  rw [hswap]
  cases a.compare b <;> simp

theorem compare_singleton {n m : Int64} (hn : 0 ≤ n.toInt) (hm : 0 ≤ m.toInt) :
    Version.compare ⟨[n.toUInt64]⟩ ⟨[m.toUInt64]⟩ = Ord.compare n.toInt m.toInt := by
  have hlt {x y : Int64} (hx : 0 ≤ x.toInt) (hy : 0 ≤ y.toInt) (h : x.toInt < y.toInt) :
      x.toUInt64 < y.toUInt64 := by
    rw [UInt64.lt_iff_toNat_lt, toNat_toUInt64 hx, toNat_toUInt64 hy]
    omega
  rw [compare_eq_padded]
  show Ord.compare [n.toUInt64] [m.toUInt64] = _
  rw [List.compare_cons_cons]
  rcases Int.lt_trichotomy n.toInt m.toInt with h | h | h
  · rw [Std.compare_eq_lt.mpr h, Std.compare_eq_lt.mpr (hlt hn hm h)]
    rfl
  · obtain rfl := Int64.toInt_inj.mp h
    simp only [Std.ReflOrd.compare_self]
    rfl
  · rw [Std.compare_eq_gt.mpr h, Std.compare_eq_gt.mpr (hlt hm hn h)]
    rfl

end Version

/-! ## Comparisons of several operands -/

def Relation.Between : Relation → Int → Int → Prop
  | equal, x, y => x = y
  | less, x, y => x < y
  | greater, x, y => x > y
  | lessOrEqual, x, y => x ≤ y
  | greaterOrEqual, x, y => x ≥ y

theorem Relation.holds_compare (relation : Relation) (x y : Int) :
    relation.holds (Ord.compare x y) = true ↔ relation.Between x y := by
  rcases Int.lt_trichotomy x y with h | h | h
  · rw [Std.compare_eq_lt.mpr h]
    cases relation <;> simp [holds, Between] <;> omega
  · rw [h, Std.ReflOrd.compare_self]
    cases relation <;> simp [holds, Between]
  · rw [Std.compare_eq_gt.mpr h]
    cases relation <;> simp [holds, Between] <;> omega

theorem Relation.Between.trans {relation : Relation} {x y z : Int} (h : relation.Between x y)
    (h' : relation.Between y z) : relation.Between x z := by
  cases relation <;> simp only [Between] at * <;> omega

private theorem compareAll_eq_ok {promotion : Promotion} {relation : Relation}
    {operands : List Value} {R : Value → Value → Prop} (h : operands.IsChain fun a b => ∃ order,
      promotion.compare a b = .ok (some order) ∧ (relation.holds order = true ↔ R a b)) :
    ∃ answer, compareAll promotion relation operands = .ok answer ∧
      (answer = true ↔ operands.IsChain R) := by
  induction operands with
  | nil => exact ⟨true, rfl, by simp⟩
  | cons a operands ih =>
      cases operands with
      | nil => exact ⟨true, rfl, by simp⟩
      | cons b operands =>
          obtain ⟨⟨order, hcompare, hholds⟩, hrest⟩ := List.isChain_cons_cons.mp h
          obtain ⟨answer, hanswer, hiff⟩ := ih hrest
          rw [compareAll, hcompare, List.isChain_cons_cons, ← hholds, ← hiff]
          cases horder : relation.holds order with
          | true =>
              refine ⟨answer, ?_, by simp⟩
              rw [← hanswer]
              exact if_pos horder
          | false =>
              refine ⟨false, ?_, by simp⟩
              exact if_neg (by simp [horder])

theorem compareChain_eq_ok (relation : Relation) {operands : List Value} {R : Value → Value → Prop}
    (hnumbers : ∀ v ∈ operands, v.numKind?.isSome = true)
    (h : ∀ kind : NumKind, kind.Widest operands → ∀ a ∈ operands, ∀ b ∈ operands, ∃ order,
      Promotion.compare ⟨some kind⟩ a b = .ok (some order) ∧
        (relation.holds order = true ↔ R a b)) :
    ∃ answer, compareChain relation operands = .ok answer ∧
      (answer = true ↔ operands.IsChain R) := by
  obtain ⟨promotion, hpromote, hcovers⟩ :=
    Promotion.promoteAll_eq_ok Promotion.start_covers hnumbers
  rw [List.append_nil] at hcovers
  have hchain : compareChain relation operands = compareAll promotion relation operands := by
    rw [compareChain, hpromote]
    rfl
  rw [hchain]
  apply compareAll_eq_ok
  cases operands with
  | nil => exact .nil
  | cons v rest =>
      obtain ⟨kind, rfl, hwidest⟩ := hcovers.eq_some
      exact (List.pairwise_of_forall_mem_list (h kind hwidest)).isChain

/-! ## Integers -/

theorem compare_integers {kind : NumKind} (hkind : kind.isInteger = true) {a b : Value}
    {n m : Int64} (ha : a.toInt64? = some n) (hb : b.toInt64? = some m) :
    Promotion.compare ⟨some kind⟩ a b = .ok (some (Ord.compare n.toInt m.toInt)) := by
  have hints :
    (do let x ← a.intOperand; let y ← b.intOperand; return some (Ord.compare x.toInt y.toInt)) =
      (.ok (some (Ord.compare n.toInt m.toInt)) : Except Cause (Option Ordering)) := by
    simp only [Value.intOperand, ha, hb]
    rfl
  cases kind with
  | byte | short | int | long => exact hints
  | float | double | version => cases hkind

private theorem isChain_whole {R : Int → Int → Prop} {operands : List Value} {numbers : List Int}
    (h : Whole operands numbers) :
    operands.IsChain (fun a b => ∃ x y, a.whole? = some x ∧ b.whole? = some y ∧ R x y) ↔
      numbers.IsChain R := by
  induction h with
  | nil => simp
  | @cons v x operands numbers hv hrest ih =>
      cases hrest with
      | nil => simp
      | cons hw _ =>
          rw [List.isChain_cons_cons, List.isChain_cons_cons, ih]
          simp [hv, hw]

theorem compareChain_integers (relation : Relation) {operands : List Value} {numbers : List Int}
    (h : Whole operands numbers) :
    ∃ answer, compareChain relation operands = .ok answer ∧
      (answer = true ↔ numbers.IsChain relation.Between) := by
  rw [← isChain_whole h]
  apply compareChain_eq_ok relation
  · intro v hv
    obtain ⟨x, hx⟩ := exists_of_forall₂ h hv
    exact Value.numKind?_isSome_of_whole hx
  · intro kind hwidest a ha b hb
    have hkind : kind.isInteger = true := by
      obtain ⟨v, hv, hkind⟩ := hwidest.attained
      obtain ⟨x, hx⟩ := exists_of_forall₂ h hv
      exact Value.isInteger_of_whole hx hkind
    obtain ⟨x, hx⟩ := exists_of_forall₂ h ha
    obtain ⟨y, hy⟩ := exists_of_forall₂ h hb
    obtain ⟨n, hn, rfl⟩ := Value.whole?_eq_some_iff.mp hx
    obtain ⟨m, hm, rfl⟩ := Value.whole?_eq_some_iff.mp hy
    refine ⟨_, compare_integers hkind hn hm, ?_⟩
    simp [relation.holds_compare, hx, hy]

/-! ## Versions and integers -/

theorem compare_versions {kind : NumKind} {operands : List Value} (hwidest : kind.Widest operands)
    (hoperands : ∀ v ∈ operands, ∃ parts, v.components? = some parts) {a b : Value}
    (ha : a ∈ operands) (hb : b ∈ operands) :
    ∃ x y, a.versionOperand = .ok x ∧ b.versionOperand = .ok y ∧
      Promotion.compare ⟨some kind⟩ a b = .ok (some (x.compare y)) := by
  by_cases hversion : ∃ version, .number (.version version) ∈ operands
  · obtain rfl := hwidest.eq_version hversion
    obtain ⟨parts, hparts⟩ := hoperands a ha
    obtain ⟨others, hothers⟩ := hoperands b hb
    obtain ⟨x, hx, -⟩ := Value.versionOperand_of_components hparts
    obtain ⟨y, hy, -⟩ := Value.versionOperand_of_components hothers
    refine ⟨x, y, hx, hy, ?_⟩
    simp only [Promotion.compare, Promotion.workKind, Option.getD_some, hx, hy]
    rfl
  · -- without a version among them all operands are integers
    have hinteger {v : Value} (hv : v ∈ operands) : ∃ n : Int64, v.toInt64? = some n ∧ 0 ≤ n.toInt ∧
        v.versionOperand = .ok ⟨[n.toUInt64]⟩ := by
      obtain ⟨parts, hparts⟩ := hoperands v hv
      rcases Value.components?_cases hparts with ⟨version, rfl, -⟩ | ⟨n, hn, hpos, hoperand, -⟩
      · exact absurd ⟨version, hv⟩ hversion
      · exact ⟨n, hn, hpos, hoperand⟩
    obtain ⟨v, hv, hkind⟩ := hwidest.attained
    obtain ⟨k, hk, -⟩ := hinteger hv
    obtain ⟨n, hn, hnpos, hx⟩ := hinteger ha
    obtain ⟨m, hm, hmpos, hy⟩ := hinteger hb
    refine ⟨_, _, hx, hy, ?_⟩
    rw [Version.compare_singleton hnpos hmpos]
    exact compare_integers
      (Value.isInteger_of_whole (Value.whole?_eq_some_iff.mpr ⟨k, hk, rfl⟩) hkind) hn hm

private theorem compareChain_versions (relation : Relation) {operands : List Value}
    (hoperands : ∀ v ∈ operands, ∃ parts, v.components? = some parts) :
    ∃ answer, compareChain relation operands = .ok answer ∧
      (answer = true ↔ operands.IsChain fun a b => ∃ x y, a.versionOperand = .ok x ∧
        b.versionOperand = .ok y ∧ relation.holds (x.compare y) = true) := by
  apply compareChain_eq_ok relation
  · intro v hv
    obtain ⟨parts, hparts⟩ := hoperands v hv
    exact Value.numKind?_isSome_of_components hparts
  · intro kind hwidest a ha b hb
    obtain ⟨x, y, hx, hy, hcompare⟩ := compare_versions hwidest hoperands ha hb
    exact ⟨_, hcompare, by simp [hx, hy]⟩

private theorem compareChain_neighbours (relation : Relation) {operands : List Value}
    (hoperands : ∀ v ∈ operands, ∃ parts, v.components? = some parts) :
    ∃ answer, compareChain relation operands = .ok answer ∧
      (answer = true ↔ operands.IsChain fun a b => compareChain relation [a, b] = .ok true) := by
  obtain ⟨answer, hanswer, hiff⟩ := compareChain_versions relation hoperands
  refine ⟨answer, hanswer, hiff.trans (List.IsChain.iff_of_mem_imp ?_)⟩
  intro a b ha hb
  have hboth : ∀ v ∈ [a, b], ∃ parts, v.components? = some parts := by
    simpa using ⟨hoperands a ha, hoperands b hb⟩
  obtain ⟨alone, halone, hpair⟩ := compareChain_versions relation hboth
  rw [List.isChain_pair] at hpair
  rw [halone, ← hpair]
  simp

/-- Versions are compared by their components in lexicographic order, with zeros behind those of the
shorter one. They are equal where neither comes first, and up to this equality the order is total.

A comparison of versions and integers that are not negative always succeeds, and is true if and only
if it is true of every two neighbours alone. A comparison of integers, of any kinds and signs, is
true if and only if the whole numbers are in the relation: each to the next one, which is to say
each to all later ones. -/
theorem comparisons_coherent :
    (∀ a b : Version, a.compare b = Ord.compare (a.padded (max a.parts.length b.parts.length))
      (b.padded (max a.parts.length b.parts.length))) ∧
    (∀ a b : Version, a.equal b = true ↔ a.compare b = .eq) ∧
    (∀ a b : Version, (a.compare b).isLE = true ∨ (b.compare a).isLE = true) ∧
    (∀ a b : Version, (a.compare b).isLE = true → (b.compare a).isLE = true → a.equal b = true) ∧
    (∀ a b c : Version, (a.compare b).isLE = true → (b.compare c).isLE = true →
      (a.compare c).isLE = true) ∧
    (∀ relation operands, (∀ v ∈ operands, ∃ parts, v.components? = some parts) →
      ∃ answer, compareChain relation operands = .ok answer ∧
        (answer = true ↔ operands.IsChain fun a b => compareChain relation [a, b] = .ok true)) ∧
    ∀ relation operands numbers, Whole operands numbers →
      ∃ answer, compareChain relation operands = .ok answer ∧
        (answer = true ↔ numbers.IsChain relation.Between) ∧
        (answer = true ↔ numbers.Pairwise relation.Between) := by
  refine ⟨Version.compare_eq_padded, Version.equal_iff, Version.isLE_or_isLE,
    fun a b => Version.equal_of_isLE, fun a b c => Std.TransCmp.isLE_trans,
    fun relation operands => compareChain_neighbours relation, ?_⟩
  intro relation operands numbers h
  obtain ⟨answer, hanswer, hiff⟩ := compareChain_integers relation h
  have htrans : Trans relation.Between relation.Between relation.Between := ⟨Relation.Between.trans⟩
  exact ⟨answer, hanswer, hiff, hiff.trans List.isChain_iff_pairwise⟩

/-- A long, a byte and two versions that end in zeros, or would if they were as long as the longest
one. A negative byte next to a long. -/
theorem comparisons_coherent_mixed_kinds :
    let mixed : List Value :=
      [.long 3, .number (.version ⟨[3, 0]⟩), .number (.byte 3), .number (.version ⟨[3, 0, 1]⟩)]
    let integers : List Value := [.number (.byte (-1)), .long 300]
    ((∀ v ∈ mixed, ∃ parts, v.components? = some parts) ∧
      compareChain .lessOrEqual mixed = .ok true ∧
      ∃ answer, compareChain .lessOrEqual mixed = .ok answer ∧ (answer = true ↔
        mixed.IsChain fun a b => compareChain .lessOrEqual [a, b] = .ok true)) ∧
    Whole integers [-1, 300] ∧ compareChain .greater integers = .ok false ∧
      ∃ answer, compareChain .greater integers = .ok answer ∧
        (answer = true ↔ [-1, 300].IsChain (Relation.Between .greater)) ∧
        (answer = true ↔ [-1, 300].Pairwise (Relation.Between .greater)) := by
  intro mixed integers
  have hmixed : ∀ v ∈ mixed, ∃ parts, v.components? = some parts := by
    simp [mixed, Value.long, Value.components?, Value.whole?, Value.toInt64?, Value.number?,
      Number.toInt64?]
  have hintegers : Whole integers [-1, 300] := .cons rfl (.cons rfl .nil)
  obtain ⟨-, -, -, -, -, hversions, hwhole⟩ := comparisons_coherent
  exact ⟨⟨hmixed, rfl, hversions .lessOrEqual mixed hmixed⟩, hintegers, rfl,
    hwhole .greater integers [-1, 300] hintegers⟩

end LispEngine
