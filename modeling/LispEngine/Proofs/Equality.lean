import LispEngine.Proofs.Comparisons
import LispEngine.Proofs.Contents
import LispEngine.Value.Equality
import Mathlib.Data.List.Sort
import Mathlib.Data.Prod.Lex
import Mathlib.Data.String.Basic

/-!
# Equality of values

Two values are equal exactly when nothing is left to tell them apart once everything is taken away
that equality does not look at. Equality is thus an equivalence because the identity of such
remainders is one. Beside it stands what equality means: lists with the same items, maps with the
same values under the same keys, floating-point numbers with the same bits, versions that differ in
zeros at their ends, and one function, failure or object.
-/

namespace LispEngine

/-! ## What equality looks at -/

theorem Version.equal_iff_padded (a b : Version) : a.equal b = true ↔
    ∃ m n, a.parts ++ List.replicate m 0 = b.parts ++ List.replicate n 0 := by
  constructor
  · intro h
    rw [equal_iff, compare_eq_padded] at h
    exact ⟨_, _, Std.LawfulEqOrd.compare_eq_iff_eq.mp h⟩
  · rintro ⟨m, n, h⟩
    have hsame := congrArg trimmed h
    rw [trimmed_append_replicate, trimmed_append_replicate] at hsame
    exact beq_iff_eq.mpr hsame

namespace Number

def essence : Number → Number
  | version v => version ⟨v.significant⟩
  | n => n

theorem equal_iff_essence (a b : Number) : a.equal b = true ↔ a.essence = b.essence := by
  cases a with
  | float x =>
      cases b with
      | float y => cases x; cases y; simp [equal, essence]
      | _ => simp [equal, essence]
  | double x =>
      cases b with
      | double y => cases x; cases y; simp [equal, essence]
      | _ => simp [equal, essence]
  | version v => cases b <;> simp [equal, essence, Version.equal]
  | _ => cases b <;> simp [equal, essence]

theorem toInt64?_essence (n : Number) : n.essence.toInt64? = n.toInt64? := by
  cases n <;> rfl

end Number

namespace Value

mutual

/-- What is left of a value when everything is taken away that equality does not look at. -/
def essence : Value → Value
  | number n => number n.essence
  | list items => list (essences items)
  | map entries => map (entryEssences entries)
  | function ref => function ⟨ref.id, ""⟩
  | error id _ => error id (.of (.parseProblem ""))
  | object id _ _ => object id "" none
  | v => v

def essences : List Value → List Value
  | [] => []
  | v :: vs => v.essence :: essences vs

def entryEssences : List (Key × Value) → List (Key × Value)
  | [] => []
  | (key, v) :: entries => (key, v.essence) :: entryEssences entries

end

mutual

theorem equal_iff_essence : ∀ v w : Value, v.equal w = true ↔ v.essence = w.essence
  | list xs, w => by
      cases w with
      | list ys => simp only [equal, essence, equalItems_iff_essences xs ys, list.injEq]
      | _ => simp [equal, equalAtom, essence]
  | map xs, w => by
      cases w with
      | map ys => simp only [equal, essence, equalEntries_iff_essences xs ys, map.injEq]
      | _ => simp [equal, equalAtom, essence]
  | number a, w => by cases w <;> simp [equal, equalAtom, essence, Number.equal_iff_essence]
  | nil, w | bool _, w | char _, w | string _, w | symbol _, w | keyword _, w | regex _, w
  | function _, w | error _ _, w | object _ _ _, w => by
      cases w <;> simp [equal, equalAtom, essence]

theorem equalItems_iff_essences : ∀ xs ys : List Value,
    equalItems xs ys = true ↔ essences xs = essences ys
  | [], [] | [], _ :: _ | _ :: _, [] => by simp [equalItems, essences]
  | v :: vs, w :: ws => by
      simp only [equalItems, essences, Bool.and_eq_true, List.cons.injEq, equal_iff_essence v w,
        equalItems_iff_essences vs ws]

theorem equalEntries_iff_essences : ∀ xs ys : List (Key × Value),
    equalEntries xs ys = true ↔ entryEssences xs = entryEssences ys
  | [], [] | [], _ :: _ | _ :: _, [] => by simp [equalEntries, entryEssences]
  | (_, v) :: vs, (_, w) :: ws => by
      simp only [equalEntries, entryEssences, Bool.and_eq_true, List.cons.injEq, Prod.mk.injEq,
        beq_iff_eq, equal_iff_essence v w, equalEntries_iff_essences vs ws]

end

theorem key?_essence (v : Value) : v.essence.key? = v.key? := by
  cases v with
  | number n => simp [essence, key?, n.toInt64?_essence]
  | _ => rfl

end Value

/-! ## What equality means -/

inductive Number.Same : Number → Number → Prop where
  | byte (n : Int8) : Same (.byte n) (.byte n)
  | short (n : Int16) : Same (.short n) (.short n)
  | int (n : Int32) : Same (.int n) (.int n)
  | long (n : Int64) : Same (.long n) (.long n)
  | float {x y : Binary32} (bits : x.bits = y.bits) : Same (.float x) (.float y)
  | double {x y : Binary64} (bits : x.bits = y.bits) : Same (.double x) (.double y)
  | version {a b : Version} {m n : Nat}
      (padded : a.parts ++ List.replicate m 0 = b.parts ++ List.replicate n 0) :
      Same (.version a) (.version b)

/-- Two values of one sort. The items of lists go by their places and the entries of maps by their
keys. Functions, failures and objects go by their identity, whatever else is known of them. -/
inductive Value.Same : Value → Value → Prop where
  | nil : Same .nil .nil
  | bool (b : Bool) : Same (.bool b) (.bool b)
  | number {a b : Number} (same : a.Same b) : Same (.number a) (.number b)
  | char (c : Char) : Same (.char c) (.char c)
  | string (text : String) : Same (.string text) (.string text)
  | symbol (name : String) : Same (.symbol name) (.symbol name)
  | keyword (name : String) : Same (.keyword name) (.keyword name)
  | regex (pattern : String) : Same (.regex pattern) (.regex pattern)
  | list {xs ys : List Value} (length : xs.length = ys.length)
      (items : ∀ (index : Nat) (v w : Value), xs[index]? = some v → ys[index]? = some w →
        Same v w) :
      Same (.list xs) (.list ys)
  | map {xs ys : List (Key × Value)} (keys : ∀ key, (∃ v, (key, v) ∈ xs) ↔ ∃ w, (key, w) ∈ ys)
      (values : ∀ key v w, (key, v) ∈ xs → (key, w) ∈ ys → Same v w) : Same (.map xs) (.map ys)
  | function {a b : FunctionRef} (id : a.id = b.id) : Same (.function a) (.function b)
  | error (id : Nat) (failure other : Failure) : Same (.error id failure) (.error id other)
  | object (id : Nat) (typeName otherName : String) (elements others : Option (Elements Value)) :
      Same (.object id typeName elements) (.object id otherName others)

theorem Number.equal_iff_same (a b : Number) : a.equal b = true ↔ a.Same b := by
  constructor
  · intro h
    fun_cases equal a b
    · obtain rfl := beq_iff_eq.mp h
      exact .byte _
    · obtain rfl := beq_iff_eq.mp h
      exact .short _
    · obtain rfl := beq_iff_eq.mp h
      exact .int _
    · obtain rfl := beq_iff_eq.mp h
      exact .long _
    · exact .float (beq_iff_eq.mp h)
    · exact .double (beq_iff_eq.mp h)
    · obtain ⟨m, n, hpadded⟩ := (Version.equal_iff_padded _ _).mp h
      exact .version hpadded
    · simp [equal] at h
  · intro h
    cases h with
    | float hbits => exact beq_iff_eq.mpr hbits
    | double hbits => exact beq_iff_eq.mpr hbits
    | version hpadded => exact (Version.equal_iff_padded _ _).mpr ⟨_, _, hpadded⟩
    | _ => exact beq_self_eq_true _

/-! ## The order of entries -/

namespace Key

/-- Where a key stands in the order of keys: the place of its sort, and its place within the sort.
-/
def place : Key → ℕ ×ₗ String ×ₗ ℤ
  | keyword name => toLex (0, toLex (name, 0))
  | symbol name => toLex (1, toLex (name, 0))
  | string text => toLex (2, toLex (text, 0))
  | number n => toLex (3, toLex ("", n.toInt))
  | bool false => toLex (4, toLex ("", 0))
  | bool true => toLex (4, toLex ("", 1))

private theorem place_injective : Function.Injective place := by
  intro a b h
  rcases a with _ | _ | _ | _ | (_ | _) <;> rcases b with _ | _ | _ | _ | (_ | _) <;>
    simp_all [place, Int64.toInt_inj]

theorem before_iff (a b : Key) : a.before b = true ↔ a.place < b.place := by
  rcases a with _ | _ | _ | _ | (_ | _) <;> rcases b with _ | _ | _ | _ | (_ | _) <;>
    simp [before, rank, place, Prod.Lex.toLex_lt_toLex, Int64.lt_iff_toInt_lt]

theorem before_of_ne {a b : Key} (hne : a ≠ b) (h : a.before b = false) : b.before a = true := by
  rw [← Bool.not_eq_true, before_iff, not_lt] at h
  rw [before_iff]
  exact lt_of_le_of_ne h fun hplace => hne (place_injective hplace.symm)

theorem before_trans {a b c : Key} (h : a.before b = true) (h' : b.before c = true) :
    a.before c = true := by
  rw [before_iff] at *
  exact h.trans h'

instance : IsStrictOrder Key fun a b => a.before b = true where
  irrefl a h := lt_irrefl _ ((before_iff a a).mp h)
  trans _ _ _ := before_trans

end Key

namespace Value

def Ascending (entries : List (Key × Value)) : Prop :=
  (entries.map (·.1)).Pairwise fun a b => a.before b = true

inductive Ordered : Value → Prop where
  | intro {v : Value} (own : ∀ entries, v = .map entries → Ascending entries)
      (inner : ∀ u, Part u v → Ordered u) : Ordered v

theorem Ordered.part {u v : Value} (h : v.Ordered) (hpart : Part u v) : u.Ordered := by
  cases h with
  | intro own inner => exact inner u hpart

theorem Ordered.ascending {entries : List (Key × Value)} (h : (Value.map entries).Ordered) :
    Ascending entries := by
  cases h with
  | intro own inner => exact own entries rfl

theorem Ordered.leaf {v : Value} (h : v.isLeaf = true) : v.Ordered := by
  refine .intro ?_ ?_
  · rintro entries rfl
    cases h
  · intro u hpart
    cases hpart <;> cases h

theorem Ordered.list {items : List Value} (hitems : ∀ v ∈ items, v.Ordered) :
    (Value.list items).Ordered := by
  refine .intro (by rintro _ ⟨⟩) ?_
  intro u hpart
  cases hpart with
  | item hmem => exact hitems u hmem

theorem Ordered.map {entries : List (Key × Value)} (hentries : Ascending entries)
    (hinner : ∀ pair ∈ entries, pair.2.Ordered) : (Value.map entries).Ordered := by
  refine .intro ?_ ?_
  · rintro _ ⟨⟩
    exact hentries
  · intro u hpart
    cases hpart with
    | entry hmem => exact hinner _ hmem

theorem mem_insertEntry {key : Key} {v : Value} {pair : Key × Value} {entries : List (Key × Value)}
    (h : pair ∈ insertEntry key v entries) : pair = (key, v) ∨ pair ∈ entries := by
  induction entries with
  | nil => exact .inl (List.mem_singleton.mp h)
  | cons first entries ih =>
      unfold insertEntry at h
      grind

private theorem ascending_insertEntry (key : Key) (v : Value) {entries : List (Key × Value)}
    (h : Ascending entries) : Ascending (insertEntry key v entries) := by
  induction entries with
  | nil => exact List.pairwise_singleton _ _
  | cons first entries ih =>
      obtain ⟨k, old⟩ := first
      obtain ⟨hfirst, hrest⟩ := List.pairwise_cons.mp h
      unfold insertEntry
      by_cases hkey : k = key
      · rw [if_pos hkey]
        exact hkey ▸ h
      · rw [if_neg hkey]
        by_cases hbefore : key.before k = true
        · rw [if_pos hbefore]
          refine List.pairwise_cons.mpr ⟨List.forall_mem_cons.mpr ⟨hbefore, ?_⟩, h⟩
          intro other hother
          exact Key.before_trans hbefore (hfirst other hother)
        · rw [if_neg hbefore]
          refine List.pairwise_cons.mpr ⟨?_, ih hrest⟩
          intro other hother
          obtain ⟨pair, hpair, rfl⟩ := List.mem_map.mp hother
          rcases mem_insertEntry hpair with rfl | hold
          · exact Key.before_of_ne (Ne.symm hkey) (Bool.eq_false_iff.mpr hbefore)
          · exact hfirst _ (List.mem_map_of_mem hold)

theorem ordered_mapOf {pairs : List (Key × Value)} (h : ∀ pair ∈ pairs, pair.2.Ordered) :
    (mapOf pairs).Ordered := by
  have hbuilt (entries : List (Key × Value)) (hentries : Ascending entries)
      (hinner : ∀ pair ∈ entries, pair.2.Ordered) : (Value.map (pairs.foldl
        (fun entries pair => insertEntry pair.1 pair.2 entries) entries)).Ordered := by
    induction pairs generalizing entries with
    | nil => exact .map hentries hinner
    | cons pair pairs ih =>
        obtain ⟨hpair, hpairs⟩ := List.forall_mem_cons.mp h
        refine ih hpairs _ (ascending_insertEntry _ _ hentries) ?_
        intro other hother
        rcases mem_insertEntry hother with rfl | hold
        · exact hpair
        · exact hinner other hold
  exact hbuilt [] List.Pairwise.nil (by simp)

/-! ## Items and entries -/

theorem equalItems_iff {xs ys : List Value} : equalItems xs ys = true ↔ xs.length = ys.length ∧
    ∀ (index : Nat) (v w : Value), xs[index]? = some v → ys[index]? = some w →
      v.equal w = true := by
  induction xs generalizing ys with
  | nil => cases ys <;> simp [equalItems]
  | cons x xs ih =>
      cases ys with
      | nil => simp [equalItems]
      | cons y ys =>
          simp only [equalItems, Bool.and_eq_true, ih, List.length_cons, Nat.add_right_cancel_iff]
          constructor
          · rintro ⟨hfirst, hlength, hrest⟩
            refine ⟨hlength, ?_⟩
            rintro (_ | index) v w hv hw
            · cases hv
              cases hw
              exact hfirst
            · exact hrest index v w hv hw
          · rintro ⟨hlength, hitems⟩
            exact ⟨hitems 0 x y rfl rfl, hlength, fun index => hitems (index + 1)⟩

private theorem equalEntries_eq {xs ys : List (Key × Value)} : equalEntries xs ys = true ↔
    xs.map (·.1) = ys.map (·.1) ∧ equalItems (xs.map (·.2)) (ys.map (·.2)) = true := by
  induction xs generalizing ys with
  | nil => cases ys <;> simp [equalEntries, equalItems]
  | cons x xs ih =>
      cases ys with
      | nil => simp [equalEntries]
      | cons y ys =>
          simp only [equalEntries, List.map_cons, List.cons.injEq, equalItems, Bool.and_eq_true,
            beq_iff_eq, ih]
          grind

private theorem keys_eq_iff {xs ys : List (Key × Value)} (hxs : Ascending xs) (hys : Ascending ys) :
    xs.map (·.1) = ys.map (·.1) ↔ ∀ key, (∃ v, (key, v) ∈ xs) ↔ ∃ w, (key, w) ∈ ys := by
  have hmem (entries : List (Key × Value)) (key : Key) :
      (∃ v, (key, v) ∈ entries) ↔ key ∈ entries.map (·.1) := by simp
  simp only [hmem]
  constructor
  · intro hkeys key
    rw [hkeys]
  · exact hxs.eq_of_mem_iff hys

theorem equalEntries_iff {xs ys : List (Key × Value)} (hxs : Ascending xs) (hys : Ascending ys) :
    equalEntries xs ys = true ↔ (∀ key, (∃ v, (key, v) ∈ xs) ↔ ∃ w, (key, w) ∈ ys) ∧
      ∀ key v w, (key, v) ∈ xs → (key, w) ∈ ys → v.equal w = true := by
  rw [equalEntries_eq, keys_eq_iff hxs hys, equalItems_iff]
  refine and_congr_right fun hkeys => ?_
  rw [← keys_eq_iff hxs hys] at hkeys
  constructor
  · rintro ⟨-, hvalues⟩ key v w hv hw
    obtain ⟨i, hi⟩ := List.mem_iff_getElem?.mp hv
    obtain ⟨j, hj⟩ := List.mem_iff_getElem?.mp hw
    -- a key stands in one place only
    obtain rfl : i = j := by
      have hkey : (ys.map (·.1))[i]? = some key := by simp [← hkeys, hi]
      have hother : (ys.map (·.1))[j]? = some key := by simp [hj]
      have hlt := (List.getElem?_eq_some_iff.mp hkey).1
      exact (List.getElem?_inj hlt hys.nodup).mp (hkey.trans hother.symm)
    exact hvalues i v w (by simp [hi]) (by simp [hj])
  · intro hvalues
    refine ⟨by simpa using congrArg List.length hkeys, ?_⟩
    intro index v w hv hw
    rw [List.getElem?_map, Option.map_eq_some_iff] at hv hw
    obtain ⟨⟨key, v⟩, hv, rfl⟩ := hv
    obtain ⟨⟨other, w⟩, hw, rfl⟩ := hw
    have hkey := congrArg (·[index]?) hkeys
    simp only [List.getElem?_map, hv, hw, Option.map_some, Option.some.injEq] at hkey
    subst hkey
    exact hvalues key v w (List.mem_of_getElem? hv) (List.mem_of_getElem? hw)

private theorem same_of_equalAtom {v w : Value} (h : v.equalAtom w = true) : v.Same w := by
  fun_cases equalAtom v w
  · exact .nil
  · obtain rfl := beq_iff_eq.mp h
    exact .bool _
  · exact .number ((Number.equal_iff_same _ _).mp h)
  · obtain rfl := beq_iff_eq.mp h
    exact .char _
  · obtain rfl := beq_iff_eq.mp h
    exact .string _
  · obtain rfl := beq_iff_eq.mp h
    exact .symbol _
  · obtain rfl := beq_iff_eq.mp h
    exact .keyword _
  · obtain rfl := beq_iff_eq.mp h
    exact .regex _
  · exact .function (beq_iff_eq.mp h)
  · obtain rfl := beq_iff_eq.mp h
    exact .error _ _ _
  · obtain rfl := beq_iff_eq.mp h
    exact .object _ _ _ _ _
  · simp [equalAtom] at h

private theorem same_of_equal {v w : Value} (hv : v.Ordered) (hw : w.Ordered) :
    v.equal w = true → v.Same w := by
  induction hv generalizing w with
  | @intro v own inner ih =>
      fun_cases equal v w with
      | case1 xs ys =>
          intro h
          obtain ⟨hlength, hitems⟩ := equalItems_iff.mp h
          refine .list hlength ?_
          intro index v w hx hy
          exact ih v (.item (List.mem_of_getElem? hx)) (hw.part (.item (List.mem_of_getElem? hy)))
            (hitems index v w hx hy)
      | case2 xs ys =>
          intro h
          obtain ⟨hkeys, hvalues⟩ := (equalEntries_iff (own xs rfl) hw.ascending).mp h
          refine .map hkeys ?_
          intro key v w hx hy
          exact ih v (.entry hx) (hw.part (.entry hy)) (hvalues key v w hx hy)
      | case3 => exact same_of_equalAtom

private theorem equal_of_same {v w : Value} (h : v.Same w) (hv : v.Ordered) (hw : w.Ordered) :
    v.equal w = true := by
  induction h with
  | list hlength _ ih =>
      rw [equal, equalItems_iff]
      refine ⟨hlength, ?_⟩
      intro index v w hx hy
      exact ih index v w hx hy (hv.part (.item (List.mem_of_getElem? hx)))
        (hw.part (.item (List.mem_of_getElem? hy)))
  | map hkeys _ ih =>
      rw [equal, equalEntries_iff hv.ascending hw.ascending]
      refine ⟨hkeys, ?_⟩
      intro key v w hx hy
      exact ih key v w hx hy (hv.part (.entry hx)) (hw.part (.entry hy))
  | number hsame => exact (Number.equal_iff_same _ _).mpr hsame
  | function hid => exact beq_iff_eq.mpr hid
  | nil => rfl
  | _ => exact beq_self_eq_true _

/-- The function `EQUAL` answers for any two values, and its answers are an equivalence. Two values
are equal exactly when they are of one sort and the same as values of that sort, where the entries
of maps stand in the order of their keys, as they do in every map that is made of pairs. Equal
values are the same key, or none. -/
theorem equal_equivalence :
    (∀ v w : Value, Primitive.equal.run [v, w] = .ok (.bool (v.equal w))) ∧
    Equivalence (fun v w : Value => v.equal w = true) ∧
    (∀ v w : Value, v.Ordered → w.Ordered → (v.equal w = true ↔ v.Same w)) ∧
    (∀ pairs : List (Key × Value), (∀ pair ∈ pairs, pair.2.Ordered) → (mapOf pairs).Ordered) ∧
    ∀ v w : Value, v.equal w = true → v.key? = w.key? := by
  refine ⟨fun v w => rfl, ⟨?_, ?_, ?_⟩, ?_, fun pairs => ordered_mapOf, ?_⟩
  · intro v
    rw [equal_iff_essence]
  · intro v w h
    rw [equal_iff_essence] at *
    exact h.symm
  · intro u v w h h'
    rw [equal_iff_essence] at *
    exact h.trans h'
  · intro v w hv hw
    exact ⟨same_of_equal hv hw, fun hsame => equal_of_same hsame hv hw⟩
  · intro v w h
    rw [← key?_essence v, (equal_iff_essence v w).mp h, key?_essence]

/-- Two maps made of the same pairs in another order, with versions that differ in a zero and a
number that is not a number inside a list. The two zeros are different. -/
theorem equal_equivalence_maps :
    let version (parts : List UInt64) : Value := .number (.version ⟨parts⟩)
    let double (bits : UInt64) : Value := .number (.double ⟨bits⟩)
    let items : Value := .list [double 0x7ff8000000000000, .function ⟨3, "f"⟩]
    let one := mapOf [(.keyword "v", version [1, 0]), (.string "x", items)]
    let other := mapOf [(.string "x", items), (.keyword "v", version [1])]
    one.Same other ∧ other.equal one = true ∧ one.key? = other.key? ∧
      ¬(double 0).Same (double 0x8000000000000000) := by
  intro version double items one other
  obtain ⟨-, hequivalence, hsame, hmaps, hkeys⟩ := equal_equivalence
  have hitems : items.Ordered := by
    apply Ordered.list
    intro v hv
    simp only [List.mem_cons, List.not_mem_nil, or_false] at hv
    rcases hv with rfl | rfl <;> exact .leaf rfl
  have hversion (parts : List UInt64) : (version parts).Ordered := .leaf rfl
  have hone : one.Ordered := hmaps _ (by simp [hitems, hversion])
  have hother : other.Ordered := hmaps _ (by simp [hitems, hversion])
  have hequal : one.equal other = true := by decide +kernel
  refine ⟨(hsame _ _ hone hother).mp hequal, hequivalence.symm hequal, hkeys _ _ hequal, ?_⟩
  rw [← hsame _ _ (.leaf rfl) (.leaf rfl)]
  decide +kernel

end Value

end LispEngine
