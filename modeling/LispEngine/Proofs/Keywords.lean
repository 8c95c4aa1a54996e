import Mathlib.Data.List.Induction
import LispEngine.Proofs.Positional

/-!
# Keyword calls

With keyword parameters, what a call site leaves behind the positional parameters is read as pairs
of keys and expressions. The pairs are read one after another, and the first that does not fit fails
the call; still, their order does not matter. A call site binds exactly if every pair fits by itself
and no two pairs give the same parameter, and the pairs concern the keyword parameters only.
-/

namespace LispEngine

def Node.key? (node : Node) : Option String := node.constant?.bind Value.keyword?

def keyAt (nodes : List Node) (index : Nat) : Option String := nodes[2 * index]?.bind Node.key?

namespace LambdaList

def DeclaresKey {N : Type} (spec : LambdaList N) (key : String) : Prop :=
  ∃ p ∈ spec.parameters, p.name = key ∧ p.role.isKeyword = true

/-- Expressions that can be read as keyword arguments. -/
structure ReadsAsKeys (spec : LambdaList Node) (nodes : List Node) : Prop where
  even : nodes.length % 2 = 0
  constant : ∀ index node, nodes[2 * index]? = some node → ∃ key, node.key? = some key
  once : ∀ i j key, keyAt nodes i = some key → keyAt nodes j = some key → spec.DeclaresKey key →
    i = j
  covered : ∀ index key, keyAt nodes index = some key →
    spec.DeclaresKey key ∨ spec.allowsOtherKeys = true

theorem isSome_keywordIndex?_iff {spec : LambdaList Node} (h : spec.Indexed) (key : String) :
    (spec.keywordIndex? key).isSome = true ↔ spec.DeclaresKey key := by
  constructor
  · intro hsome
    obtain ⟨index, hindex⟩ := Option.isSome_iff_exists.mp hsome
    exact h.keyword_of_index hindex
  · rintro ⟨p, hp, rfl, hkeyword⟩
    obtain ⟨index, hindex⟩ := List.getElem?_of_mem hp
    have hname : spec.indexOf? p.name = some index := (h.name p.name index).mpr ⟨p, hindex, rfl⟩
    simp [keywordIndex?, hname, hindex, hkeyword]

end LambdaList

/-! ## Pairs -/

def flatPairs (pairs : List (Node × Node)) : List Node := pairs.flatMap fun pair => [pair.1, pair.2]

theorem flatPairs_cons (pair : Node × Node) (pairs : List (Node × Node)) :
    flatPairs (pair :: pairs) = pair.1 :: pair.2 :: flatPairs pairs := by
  simp [flatPairs]

theorem length_flatPairs (pairs : List (Node × Node)) :
    (flatPairs pairs).length = 2 * pairs.length := by
  induction pairs with
  | nil => rfl
  | cons pair pairs ih =>
      simp only [flatPairs_cons, List.length_cons, ih]
      omega

theorem getElem?_flatPairs_key (pairs : List (Node × Node)) (index : Nat) :
    (flatPairs pairs)[2 * index]? = pairs[index]?.map (·.1) := by
  induction pairs generalizing index with
  | nil => simp [flatPairs]
  | cons pair pairs ih =>
      cases index with
      | zero => simp [flatPairs_cons]
      | succ index => simpa [flatPairs_cons, Nat.mul_succ] using ih index

theorem getElem?_flatPairs_value (pairs : List (Node × Node)) (index : Nat) :
    (flatPairs pairs)[2 * index + 1]? = pairs[index]?.map (·.2) := by
  induction pairs generalizing index with
  | nil => simp [flatPairs]
  | cons pair pairs ih =>
      cases index with
      | zero => simp [flatPairs_cons]
      | succ index => simpa [flatPairs_cons, Nat.mul_succ] using ih index

theorem exists_flatPairs {nodes : List Node} (h : nodes.length % 2 = 0) :
    ∃ pairs, nodes = flatPairs pairs := by
  induction nodes using List.twoStepInduction with
  | nil => exact ⟨[], rfl⟩
  | singleton node => simp at h
  | cons_cons key node nodes ih _ =>
      simp only [List.length_cons] at h
      obtain ⟨pairs, rfl⟩ := ih (by omega)
      exact ⟨(key, node) :: pairs, (flatPairs_cons (key, node) pairs).symm⟩

theorem keyAt_flatPairs (pairs : List (Node × Node)) (index : Nat) :
    keyAt (flatPairs pairs) index = pairs[index]?.bind (·.1.key?) := by
  rw [keyAt, getElem?_flatPairs_key]
  cases pairs[index]? with
  | none => rfl
  | some pair => rfl

/-! ## Reading -/

def declaredKey? (spec : LambdaList Node) (pair : Node × Node) : Option String :=
  pair.1.key?.filter fun key => (spec.keywordIndex? key).isSome

def givenKeywords (spec : LambdaList Node) (pairs : List (Node × Node)) : KeywordArguments :=
  pairs.filterMap fun pair => (declaredKey? spec pair).map (·, pair.2)

def PairFits (spec : LambdaList Node) (pair : Node × Node) : Prop :=
  ∃ key, pair.1.key? = some key ∧
    ((spec.keywordIndex? key).isSome = true ∨ spec.allowsOtherKeys = true)

theorem map_fst_givenKeywords (spec : LambdaList Node) (pairs : List (Node × Node)) :
    (givenKeywords spec pairs).map (·.1) = pairs.filterMap (declaredKey? spec) := by
  simp [givenKeywords, List.map_filterMap, Function.comp_def]

theorem lookup_eq_some_iff_mem {α : Type} {pairs : List (String × α)} {name : String} {a : α}
    (h : (pairs.map (·.1)).Nodup) : pairs.lookup name = some a ↔ (name, a) ∈ pairs := by
  constructor
  · exact mem_of_lookup
  · intro hmem
    have hsome : (pairs.lookup name).isSome = true := by simpa using ⟨a, hmem⟩
    obtain ⟨b, hb⟩ := Option.isSome_iff_exists.mp hsome
    have hsame := List.inj_on_of_nodup_map h (mem_of_lookup hb) hmem rfl
    cases hsame
    exact hb

theorem readKeywords_eq_ok_iff {spec : LambdaList Node} {pairs : List (Node × Node)}
    {given keywords : KeywordArguments} (hgiven : (given.map (·.1)).Nodup) :
    readKeywords spec (flatPairs pairs) given = .ok keywords ↔
      (∀ pair ∈ pairs, PairFits spec pair) ∧
        ((given ++ givenKeywords spec pairs).map (·.1)).Nodup ∧
        keywords = given ++ givenKeywords spec pairs := by
  induction pairs generalizing given with
  | nil => simp [flatPairs, readKeywords, givenKeywords, hgiven, eq_comm]
  | cons pair pairs ih =>
      rw [flatPairs_cons, readKeywords]
      cases hkey : pair.1.constant?.bind Value.keyword? with
      | none =>
          have hnone : ¬PairFits spec pair := by
            rintro ⟨key, hsome, -⟩
            cases hkey.symm.trans hsome
          simp [hnone]
      | some key =>
          have hkey : pair.1.key? = some key := hkey
          cases hindex : spec.keywordIndex? key with
          | none =>
              have hskip : givenKeywords spec (pair :: pairs) = givenKeywords spec pairs := by
                simp [givenKeywords, declaredKey?, hkey, hindex]
              have hfits : PairFits spec pair ↔ spec.allowsOtherKeys = true := by
                simp [PairFits, hkey, hindex]
              rw [hskip, List.forall_mem_cons, hfits, and_assoc, ← ih hgiven]
              cases spec.allowsOtherKeys with
              | true => simp [hindex]
              | false => simp [hindex]
          | some index =>
              have hfits : PairFits spec pair := ⟨key, hkey, .inl (by simp [hindex])⟩
              have hgives : given ++ givenKeywords spec (pair :: pairs) =
                  given ++ [(key, pair.2)] ++ givenKeywords spec pairs := by
                simp [givenKeywords, declaredKey?, hkey, hindex]
              rw [hgives, List.forall_mem_cons]
              by_cases htwice : key ∈ given.map (·.1)
              · have hlookup : (given.lookup key).isSome = true := by simpa using htwice
                have hrepeats :
                    ¬((given ++ [(key, pair.2)] ++ givenKeywords spec pairs).map (·.1)).Nodup := by
                  intro hnodup
                  rw [List.map_append, List.map_append, List.append_assoc] at hnodup
                  exact List.disjoint_of_nodup_append hnodup htwice (by simp)
                simp only [hindex, hlookup, if_true, reduceCtorEq, hrepeats, false_and, and_false]
              · have hlookup : ¬(given.lookup key).isSome = true := by simpa using htwice
                have hmore : ((given ++ [(key, pair.2)]).map (·.1)).Nodup := by
                  rw [List.map_append]
                  exact List.Nodup.append hgiven (by simp) (by simpa using htwice)
                simp only [hindex, hlookup, if_false, ih hmore, hfits, true_and, Bool.false_eq_true]

theorem declaredKey?_eq_some_iff {spec : LambdaList Node} (hspec : spec.Indexed)
    {pair : Node × Node} {key : String} :
    declaredKey? spec pair = some key ↔ pair.1.key? = some key ∧ spec.DeclaresKey key := by
  simp [declaredKey?, Option.filter_eq_some_iff, LambdaList.isSome_keywordIndex?_iff hspec]

private theorem nodup_givenKeywords_iff {spec : LambdaList Node} (hspec : spec.Indexed)
    (pairs : List (Node × Node)) :
    ((givenKeywords spec pairs).map (·.1)).Nodup ↔
      ∀ i j key, keyAt (flatPairs pairs) i = some key → keyAt (flatPairs pairs) j = some key →
        spec.DeclaresKey key → i = j := by
  rw [map_fst_givenKeywords, List.Nodup, List.pairwise_filterMap, List.pairwise_iff_getElem]
  constructor
  · intro h i j key hi hj hnames
    rw [keyAt_flatPairs] at hi hj
    obtain ⟨first, hfirst, hikey⟩ := Option.bind_eq_some_iff.mp hi
    obtain ⟨second, hsecond, hjkey⟩ := Option.bind_eq_some_iff.mp hj
    obtain ⟨hilt, rfl⟩ := List.getElem?_eq_some_iff.mp hfirst
    obtain ⟨hjlt, rfl⟩ := List.getElem?_eq_some_iff.mp hsecond
    have hikey := (declaredKey?_eq_some_iff hspec).mpr ⟨hikey, hnames⟩
    have hjkey := (declaredKey?_eq_some_iff hspec).mpr ⟨hjkey, hnames⟩
    rcases Nat.lt_trichotomy i j with hlt | heq | hlt
    · exact absurd rfl (h i j hilt hjlt hlt key hikey key hjkey)
    · exact heq
    · exact absurd rfl (h j i hjlt hilt hlt key hjkey key hikey)
  · intro h i j hi hj hlt key hkey other hother
    rintro rfl
    obtain ⟨hikey, hnames⟩ := (declaredKey?_eq_some_iff hspec).mp hkey
    obtain ⟨hjkey, -⟩ := (declaredKey?_eq_some_iff hspec).mp hother
    have hsame : i = j := by
      apply h i j key
      · simp [keyAt_flatPairs, List.getElem?_eq_getElem hi, hikey]
      · simp [keyAt_flatPairs, List.getElem?_eq_getElem hj, hjkey]
      · exact hnames
    omega

theorem readsAsKeys_flatPairs {spec : LambdaList Node} (hspec : spec.Indexed)
    (pairs : List (Node × Node)) :
    spec.ReadsAsKeys (flatPairs pairs) ↔
      (∀ pair ∈ pairs, PairFits spec pair) ∧ ((givenKeywords spec pairs).map (·.1)).Nodup := by
  rw [nodup_givenKeywords_iff hspec]
  constructor
  · intro h
    refine ⟨?_, h.once⟩
    intro pair hpair
    obtain ⟨index, hindex⟩ := List.getElem?_of_mem hpair
    obtain ⟨key, hkey⟩ := h.constant index pair.1 (by simp [getElem?_flatPairs_key, hindex])
    refine ⟨key, hkey, ?_⟩
    rw [LambdaList.isSome_keywordIndex?_iff hspec]
    exact h.covered index key (by simp [keyAt_flatPairs, hindex, hkey])
  · rintro ⟨hfits, honce⟩
    refine ⟨?_, ?_, honce, ?_⟩
    · rw [length_flatPairs]
      omega
    · intro index node hnode
      rw [getElem?_flatPairs_key] at hnode
      obtain ⟨pair, hpair, rfl⟩ := Option.map_eq_some_iff.mp hnode
      obtain ⟨key, hkey, -⟩ := hfits pair (List.mem_of_getElem? hpair)
      exact ⟨key, hkey⟩
    · intro index key hkey
      rw [keyAt_flatPairs] at hkey
      obtain ⟨pair, hpair, hkey⟩ := Option.bind_eq_some_iff.mp hkey
      obtain ⟨other, hother, hallowed⟩ := hfits pair (List.mem_of_getElem? hpair)
      cases hkey.symm.trans hother
      rwa [LambdaList.isSome_keywordIndex?_iff hspec] at hallowed

theorem bindKeywords_flatPairs {spec : LambdaList Node} (hkeys : spec.hasKeywords = true)
    {pairs : List (Node × Node)} {keywords : KeywordArguments} :
    bindKeywords spec (flatPairs pairs) = .ok keywords ↔
      (∀ pair ∈ pairs, PairFits spec pair) ∧ ((givenKeywords spec pairs).map (·.1)).Nodup ∧
        keywords = givenKeywords spec pairs := by
  have hread : readKeywords spec (flatPairs pairs) [] = .ok keywords ↔ _ :=
    readKeywords_eq_ok_iff (by simp)
  simpa [bindKeywords, hkeys, length_flatPairs] using hread

theorem even_of_bindKeywords {spec : LambdaList Node} (hkeys : spec.hasKeywords = true)
    {nodes : List Node} {keywords : KeywordArguments} (h : bindKeywords spec nodes = .ok keywords) :
    nodes.length % 2 = 0 := by
  by_contra hodd
  have hone : nodes.length % 2 = 1 := by omega
  simp [bindKeywords, hkeys, hone] at h

theorem bindKeywords_ok_iff {spec : LambdaList Node} (hspec : spec.Indexed)
    (hkeys : spec.hasKeywords = true) (nodes : List Node) :
    (∃ keywords, bindKeywords spec nodes = .ok keywords) ↔ spec.ReadsAsKeys nodes := by
  constructor
  · rintro ⟨keywords, hbind⟩
    obtain ⟨pairs, rfl⟩ := exists_flatPairs (even_of_bindKeywords hkeys hbind)
    obtain ⟨hfits, hdistinct, -⟩ := (bindKeywords_flatPairs hkeys).mp hbind
    exact (readsAsKeys_flatPairs hspec pairs).mpr ⟨hfits, hdistinct⟩
  · intro hreads
    obtain ⟨pairs, rfl⟩ := exists_flatPairs hreads.even
    obtain ⟨hfits, hdistinct⟩ := (readsAsKeys_flatPairs hspec pairs).mp hreads
    exact ⟨_, (bindKeywords_flatPairs hkeys).mpr ⟨hfits, hdistinct, rfl⟩⟩

theorem bindKeywords_lookup {spec : LambdaList Node} (hspec : spec.Indexed)
    (hkeys : spec.hasKeywords = true) {nodes : List Node} {keywords : KeywordArguments}
    (h : bindKeywords spec nodes = .ok keywords) {key : String} (hkey : spec.DeclaresKey key)
    (node : Node) :
    keywords.lookup key = some node ↔
      ∃ index, keyAt nodes index = some key ∧ nodes[2 * index + 1]? = some node := by
  obtain ⟨pairs, rfl⟩ := exists_flatPairs (even_of_bindKeywords hkeys h)
  obtain ⟨-, hdistinct, rfl⟩ := (bindKeywords_flatPairs hkeys).mp h
  rw [lookup_eq_some_iff_mem hdistinct]
  simp only [givenKeywords, List.mem_filterMap, keyAt_flatPairs, getElem?_flatPairs_value]
  constructor
  · rintro ⟨pair, hpair, hgives⟩
    obtain ⟨other, hother, hsame⟩ := Option.map_eq_some_iff.mp hgives
    cases hsame
    obtain ⟨index, hindex⟩ := List.getElem?_of_mem hpair
    refine ⟨index, ?_, ?_⟩
    · simp [hindex, ((declaredKey?_eq_some_iff hspec).mp hother).1]
    · simp [hindex]
  · rintro ⟨index, hkeyAt, hvalue⟩
    obtain ⟨pair, hpair, hkeyAt⟩ := Option.bind_eq_some_iff.mp hkeyAt
    refine ⟨pair, List.mem_of_getElem? hpair, ?_⟩
    have hnode : pair.2 = node := by simpa [hpair] using hvalue
    simp [(declaredKey?_eq_some_iff hspec).mpr ⟨hkeyAt, hkey⟩, hnode]

/-! ## Shares of parameters -/

def Bound.ofNode? : Option Node → Bound
  | none => .missing
  | some node => .single node

namespace Portions

def share (portions : Portions) (before : List (Parameter Node)) (p : Parameter Node) : Bound :=
  if p.role.takesLeading then .ofNode? portions.leading[before.countP (·.role.takesLeading)]?
  else if p.role = .mandatoryAfterOptional then
    .ofNode? portions.trailing[before.countP (·.role == .mandatoryAfterOptional)]?
  else if p.role = .rest then .rest portions.remaining
  else .ofNode? (portions.keywords.lookup p.name)

def after (portions : Portions) (p : Parameter Node) : Portions :=
  if p.role.takesLeading then { portions with leading := portions.leading.drop 1 }
  else if p.role = .mandatoryAfterOptional then
    { portions with trailing := portions.trailing.drop 1 }
  else portions

private theorem share_after (portions : Portions) (p : Parameter Node)
    (before : List (Parameter Node)) :
    (portions.after p).share before = portions.share (p :: before) := by
  funext q
  cases hp : p.role <;> simp [share, after, hp, Role.takesLeading, Nat.add_comm]

end Portions

private theorem distribute_cons (p : Parameter Node) (ps : List (Parameter Node))
    (portions : Portions) :
    distribute (p :: ps) portions = portions.share [] p :: distribute ps (portions.after p) := by
  obtain ⟨leading, remaining, trailing, keywords⟩ := portions
  cases hrole : p.role with
  | mandatory | optional =>
      cases leading <;> simp [distribute, hrole, Portions.share, Portions.after, Role.takesLeading,
        Bound.ofNode?]
  | mandatoryAfterOptional =>
      cases trailing <;> simp [distribute, hrole, Portions.share, Portions.after, Role.takesLeading,
        Bound.ofNode?]
  | rest => simp [distribute, hrole, Portions.share, Portions.after, Role.takesLeading]
  | keyword | restThenKeyword =>
      cases hlookup : keywords.lookup p.name <;> simp [distribute, hrole, Portions.share,
        Portions.after, Role.takesLeading, Bound.ofNode?, hlookup]

theorem getElem?_distribute (ps : List (Parameter Node)) (portions : Portions) (index : Nat) :
    (distribute ps portions)[index]? = ps[index]?.map (portions.share (ps.take index)) := by
  induction ps generalizing portions index with
  | nil => simp [distribute]
  | cons p ps ih =>
      rw [distribute_cons]
      cases index with
      | zero => simp
      | succ index => simp [ih, Portions.share_after]

theorem eq_take_cons_drop {α : Type} {items : List α} {index : Nat} {a : α}
    (h : items[index]? = some a) : items.take index ++ a :: items.drop (index + 1) = items := by
  obtain ⟨hlt, rfl⟩ := List.getElem?_eq_some_iff.mp h
  rw [List.getElem_cons_drop, List.take_append_drop]

/-! ## Calls -/

theorem bindArguments_eq_ok_iff {spec : LambdaList Node} (hkeys : spec.hasKeywords = true)
    (nodes : List Node) (arguments : BoundArguments) :
    bindArguments spec nodes = .ok arguments ↔
      spec.required ≤ nodes.length ∧
        ∃ keywords, bindKeywords spec (Portions.cut spec nodes []).remaining = .ok keywords ∧
          arguments = ⟨spec, distribute spec.parameters (.cut spec nodes keywords)⟩ := by
  constructor
  · intro h
    obtain ⟨keywords, hbind, henough, rfl⟩ := bindArguments_eq_ok h
    exact ⟨henough, keywords, hbind, rfl⟩
  · rintro ⟨henough, keywords, hbind, rfl⟩
    have hfew : ¬nodes.length < spec.countRole .mandatory +
      spec.countRole .mandatoryAfterOptional :=
      Nat.not_lt.mpr henough
    simp only [Portions.cut] at hbind
    simp [bindArguments, hfew, hbind, hkeys, bind, Except.bind, Portions.cut, pure, Except.pure]

namespace Portions

variable {spec : LambdaList Node}

theorem cut_middle {nodes middle : List Node}
    (h : middle.length = (cut spec nodes []).remaining.length) (keywords : KeywordArguments) :
    cut spec ((cut spec nodes []).leading ++ middle ++ (cut spec nodes []).trailing) keywords =
      { cut spec nodes keywords with remaining := middle } := by
  have hown : (cut spec nodes []).leading.length ≤
        spec.countRole .mandatory + spec.countRole .optional ∧
      ((cut spec nodes []).leading.length = spec.countRole .mandatory + spec.countRole .optional ∨
        middle.length = 0) := by
    rw [h]
    simp only [cut, List.length_drop, List.length_take]
    omega
  have hfront : ((cut spec nodes []).leading ++ middle ++ (cut spec nodes []).trailing).length -
      spec.countRole .mandatoryAfterOptional = ((cut spec nodes []).leading ++ middle).length := by
    simp only [List.length_append, h]
    simp only [cut, List.length_drop, List.length_take]
    omega
  have htake : ((cut spec nodes []).leading ++ middle).take
      (spec.countRole .mandatory + spec.countRole .optional) = (cut spec nodes []).leading := by
    rw [List.take_append, List.take_of_length_le hown.1]
    rcases hown.2 with heq | hnone
    · simp [heq]
    · simp [List.length_eq_zero_iff.mp hnone]
  have hdrop : ((cut spec nodes []).leading ++ middle).drop
      (spec.countRole .mandatory + spec.countRole .optional) = middle := by
    rw [List.drop_append, List.drop_of_length_le hown.1]
    rcases hown.2 with heq | hnone
    · simp [heq]
    · simp [List.length_eq_zero_iff.mp hnone]
  rw [cut, hfront]
  simp only [List.take_left, List.drop_left, htake, hdrop]
  rfl

/-- What a call site supplies: by place for the positional parameters, all that remains for the
rest, and for keyword parameters the expressions paired with their names. -/
structure Supplies (portions : Portions) (arguments : BoundArguments) : Prop where
  leading (index : Nat) (p : Parameter Node) : arguments.spec.parameters[index]? = some p →
    p.role.takesLeading = true → arguments.bound[index]? = some (.ofNode?
      portions.leading[(arguments.spec.parameters.take index).countP (·.role.takesLeading)]?)
  trailing (index : Nat) (p : Parameter Node) : arguments.spec.parameters[index]? = some p →
    p.role = .mandatoryAfterOptional → arguments.bound[index]? = some (.ofNode? portions.trailing[
      (arguments.spec.parameters.take index).countP (·.role == .mandatoryAfterOptional)]?)
  rest (index : Nat) (p : Parameter Node) : arguments.spec.parameters[index]? = some p →
    p.role = .rest → arguments.bound[index]? = some (.rest portions.remaining)
  given (index place : Nat) (p : Parameter Node) (node : Node) :
    arguments.spec.parameters[index]? = some p → p.role.isKeyword = true →
    keyAt portions.remaining place = some p.name →
    portions.remaining[2 * place + 1]? = some node → arguments.bound[index]? = some (.single node)
  absent (index : Nat) (p : Parameter Node) : arguments.spec.parameters[index]? = some p →
    p.role.isKeyword = true → (∀ place, keyAt portions.remaining place ≠ some p.name) →
    arguments.bound[index]? = some .missing

private theorem share_keyword (portions : Portions) (before : List (Parameter Node))
    {p : Parameter Node} (h : p.role.isKeyword = true) :
    portions.share before p = .ofNode? (portions.keywords.lookup p.name) := by
  cases hrole : p.role <;> simp [hrole, Role.isKeyword] at h <;>
    simp [share, hrole, Role.takesLeading]

theorem cut_supplies (hspec : spec.Indexed) (hkeys : spec.hasKeywords = true)
    {nodes : List Node} {keywords : KeywordArguments}
    (h : bindKeywords spec (cut spec nodes []).remaining = .ok keywords) :
    (cut spec nodes []).Supplies ⟨spec, distribute spec.parameters (cut spec nodes keywords)⟩ := by
  have hshare {index : Nat} {p : Parameter Node} (hp : spec.parameters[index]? = some p) :
      (distribute spec.parameters (cut spec nodes keywords))[index]? =
        some ((cut spec nodes keywords).share (spec.parameters.take index) p) := by
    simp [getElem?_distribute, hp]
  have hlookup {index : Nat} {p : Parameter Node} (hp : spec.parameters[index]? = some p)
      (hkeyword : p.role.isKeyword = true) :=
    bindKeywords_lookup hspec hkeys h ⟨p, List.mem_of_getElem? hp, rfl, hkeyword⟩
  constructor
  · intro index p hp hrole
    rw [hshare hp, share, if_pos hrole]
    rfl
  · intro index p hp hrole
    rw [hshare hp]
    simp [share, hrole, Role.takesLeading, cut]
  · intro index p hp hrole
    rw [hshare hp]
    simp [share, hrole, Role.takesLeading, cut]
  · intro index place p node hp hkeyword hplace hnode
    rw [hshare hp, share_keyword _ _ hkeyword]
    have hgiven : keywords.lookup p.name = some node :=
      (hlookup hp hkeyword node).mpr ⟨place, hplace, hnode⟩
    simp [cut, hgiven, Bound.ofNode?]
  · intro index p hp hkeyword hnone
    rw [hshare hp, share_keyword _ _ hkeyword]
    have hgiven : keywords.lookup p.name = none := by
      rw [Option.eq_none_iff_forall_ne_some]
      intro node hnode
      obtain ⟨place, hplace, -⟩ := (hlookup hp hkeyword node).mp hnode
      exact hnone place hplace
    simp [cut, hgiven, Bound.ofNode?]

private theorem share_eq_of_lookup {portions others : Portions} (before : List (Parameter Node))
    {p : Parameter Node} (hleading : portions.leading = others.leading)
    (htrailing : portions.trailing = others.trailing)
    (hkeywords : portions.keywords.lookup p.name = others.keywords.lookup p.name)
    (hrole : p.role ≠ .rest) : portions.share before p = others.share before p := by
  simp only [share, hleading, htrailing, hkeywords, hrole, if_false]

end Portions

private theorem lookup_perm {α : Type} {pairs others : List (String × α)}
    (hnodup : (pairs.map (·.1)).Nodup) (h : pairs.Perm others) (name : String) :
    pairs.lookup name = others.lookup name := by
  have hothers : (others.map (·.1)).Nodup := (h.map _).nodup_iff.mp hnodup
  ext a
  rw [lookup_eq_some_iff_mem hnodup, lookup_eq_some_iff_mem hothers, h.mem_iff]

private theorem bindKeywords_perm {spec : LambdaList Node} (hkeys : spec.hasKeywords = true)
    {pairs others : List (Node × Node)} (h : pairs.Perm others) {keywords : KeywordArguments}
    (hbind : bindKeywords spec (flatPairs pairs) = .ok keywords) :
    ∃ permuted, bindKeywords spec (flatPairs others) = .ok permuted ∧
      ∀ name, keywords.lookup name = permuted.lookup name := by
  obtain ⟨hfits, hdistinct, rfl⟩ := (bindKeywords_flatPairs hkeys).mp hbind
  have hperm : (givenKeywords spec pairs).Perm (givenKeywords spec others) := h.filterMap _
  refine ⟨givenKeywords spec others, (bindKeywords_flatPairs hkeys).mpr ⟨?_, ?_, rfl⟩, ?_⟩
  · intro pair hpair
    exact hfits pair (h.mem_iff.mpr hpair)
  · exact (hperm.map _).nodup_iff.mp hdistinct
  · exact lookup_perm hdistinct hperm

private theorem bindArguments_perm {spec : LambdaList Node} (hkeys : spec.hasKeywords = true)
    {nodes : List Node} {pairs others : List (Node × Node)}
    (hpairs : (Portions.cut spec nodes []).remaining = flatPairs pairs) (h : pairs.Perm others)
    {arguments : BoundArguments} (hbind : bindArguments spec nodes = .ok arguments) :
    ∃ permuted, bindArguments spec ((Portions.cut spec nodes []).leading ++ flatPairs others ++
        (Portions.cut spec nodes []).trailing) = .ok permuted ∧
      ∀ (index : Nat) (p : Parameter Node), spec.parameters[index]? = some p → p.role ≠ .rest →
        arguments.bound[index]? = permuted.bound[index]? := by
  obtain ⟨henough, keywords, hread, rfl⟩ := (bindArguments_eq_ok_iff hkeys _ _).mp hbind
  have hlength : (flatPairs others).length = (Portions.cut spec nodes []).remaining.length := by
    rw [hpairs, length_flatPairs, length_flatPairs, h.length_eq]
  rw [hpairs] at hread
  obtain ⟨permuted, hpermuted, hsame⟩ := bindKeywords_perm hkeys h hread
  refine ⟨_, (bindArguments_eq_ok_iff hkeys _ _).mpr ⟨?_, permuted, ?_, rfl⟩, ?_⟩
  · rw [← Portions.cut_append spec nodes []] at henough
    simpa [hlength] using henough
  · rw [Portions.cut_middle hlength]
    exact hpermuted
  · intro index p hp hrole
    simp only [Portions.cut_middle hlength, getElem?_distribute, hp, Option.map_some]
    congr 1
    apply Portions.share_eq_of_lookup
    · rfl
    · rfl
    · exact hsame p.name
    · exact hrole

/-- With keyword parameters, a call site binds exactly if it has enough expressions for the
mandatory parameters, and what remains behind the positional ones can be read as keyword arguments.
The order of the pairs of keys and expressions matters neither for that nor for what any parameter
but the rest parameter receives. -/
theorem bindArguments_keywords {spec : LambdaList Node} (hspec : spec.Accepted)
    (hkeys : spec.hasKeywords = true) (nodes : List Node) :
    let portions := Portions.cut spec nodes []
    ((∃ arguments, bindArguments spec nodes = .ok arguments) ↔
      spec.required ≤ nodes.length ∧ spec.ReadsAsKeys portions.remaining) ∧
    (∀ arguments, bindArguments spec nodes = .ok arguments →
      arguments.spec = spec ∧ arguments.bound.length = spec.size ∧ portions.Supplies arguments) ∧
    ∀ pairs others, portions.remaining = flatPairs pairs → pairs.Perm others →
      let permuted := portions.leading ++ flatPairs others ++ portions.trailing
      ((∃ arguments, bindArguments spec nodes = .ok arguments) ↔
        ∃ arguments, bindArguments spec permuted = .ok arguments) ∧
      ∀ first second, bindArguments spec nodes = .ok first →
        bindArguments spec permuted = .ok second →
        ∀ (index : Nat) (p : Parameter Node), spec.parameters[index]? = some p → p.role ≠ .rest →
          first.bound[index]? = second.bound[index]? := by
  intro portions
  have hindexed : spec.Indexed := hspec.orderly.indexed
  refine ⟨?_, ?_, ?_⟩
  · rw [← bindKeywords_ok_iff hindexed hkeys]
    simp only [bindArguments_eq_ok_iff hkeys]
    constructor
    · rintro ⟨-, henough, keywords, hread, -⟩
      exact ⟨henough, keywords, hread⟩
    · rintro ⟨henough, keywords, hread⟩
      exact ⟨_, henough, keywords, hread, rfl⟩
  · intro arguments hbind
    obtain ⟨-, keywords, hread, rfl⟩ := (bindArguments_eq_ok_iff hkeys _ _).mp hbind
    exact ⟨rfl, length_distribute _ _, Portions.cut_supplies hindexed hkeys hread⟩
  · intro pairs others hpairs hperm permuted
    refine ⟨⟨?_, ?_⟩, ?_⟩
    · rintro ⟨arguments, hbind⟩
      obtain ⟨second, hsecond, -⟩ := bindArguments_perm hkeys hpairs hperm hbind
      exact ⟨second, hsecond⟩
    · -- The pairs of the other call site are brought back into the order of this one.
      rintro ⟨arguments, hbind⟩
      have hlength : (flatPairs others).length = portions.remaining.length := by
        rw [hpairs, length_flatPairs, length_flatPairs, hperm.length_eq]
      have hcut : Portions.cut spec permuted [] = { portions with remaining := flatPairs others } :=
        Portions.cut_middle hlength []
      obtain ⟨first, hfirst, -⟩ :=
        bindArguments_perm hkeys (congrArg Portions.remaining hcut) hperm.symm hbind
      rw [hcut, ← hpairs, Portions.cut_append spec nodes []] at hfirst
      exact ⟨first, hfirst⟩
    · intro first second hfirst hsecond
      obtain ⟨permuted, hpermuted, hsame⟩ := bindArguments_perm hkeys hpairs hperm hfirst
      cases hpermuted.symm.trans hsecond
      exact hsame

/-- A key of no parameter may stand before or behind the key of one, and is passed over. The key of
a parameter may not be repeated. -/
theorem bindArguments_keywords_other_key :
    let x : Node := .ofValue (.int 0) none
    let y : Node := .ofValue (.list []) none
    let key (name : String) : Node := .ofValue (.keyword name) none
    let spec : LambdaList Node := .ofList [⟨"X", .mandatory, none, none, false, false, false⟩,
      ⟨"MORE", .rest, none, none, false, false, false⟩,
      ⟨"K", .restThenKeyword, none, none, true, false, false⟩]
    (LambdaList.ofTokens [.name "X", .marker "&REST", .name "MORE", .marker "&KEY", .name "K",
      .marker "&ALLOW-OTHER-KEYS"] : Except Cause (LambdaList Node)) = .ok spec ∧
    spec.hasKeywords = true ∧
    (∃ arguments, bindArguments spec [x, key "X", x, key "K", y] = .ok arguments ∧
      arguments.bound[2]? = some (.single y)) ∧
    (∃ arguments, bindArguments spec [x, key "K", y, key "X", x] = .ok arguments) ∧
    ¬∃ arguments, bindArguments spec [x, key "K", y, key "K", x] = .ok arguments := by
  intro x y key spec
  have hrest : Marker.ofText? "&REST" = some .rest := by decide +kernel
  have hkey : Marker.ofText? "&KEY" = some .key := by decide +kernel
  have hallow : Marker.ofText? "&ALLOW-OTHER-KEYS" = some .allowOtherKeys := by decide +kernel
  have hread : (LambdaList.ofTokens [.name "X", .marker "&REST", .name "MORE", .marker "&KEY",
      .name "K", .marker "&ALLOW-OTHER-KEYS"] : Except Cause (LambdaList Node)) = .ok spec := by
    simp only [LambdaList.ofTokens, LambdaReader.takeAll, LambdaReader.take,
      LambdaReader.takeMarker, hrest, hkey, hallow]
    rfl
  obtain ⟨-, hsupplies, horder⟩ :=
    bindArguments_keywords (.read hread) rfl [x, key "X", x, key "K", y]
  obtain ⟨htwice, -, -⟩ := bindArguments_keywords (.read hread) rfl [x, key "K", y, key "K", x]
  have hbinds : (bindArguments spec [x, key "X", x, key "K", y]).isOk = true := by decide +kernel
  cases harguments : bindArguments spec [x, key "X", x, key "K", y] with
  | error cause =>
      rw [harguments] at hbinds
      cases hbinds
  | ok arguments =>
      obtain ⟨hspec, -, hshares⟩ := hsupplies arguments harguments
      refine ⟨hread, rfl, ⟨arguments, rfl, ?_⟩, ?_, ?_⟩
      · apply hshares.given 2 1 ⟨"K", .restThenKeyword, none, none, true, false, false⟩ y
        · rw [hspec]
          rfl
        · rfl
        · rfl
        · rfl
      · exact (horder [(key "X", x), (key "K", y)] [(key "K", y), (key "X", x)] rfl
          (.swap _ _ _)).1.mp ⟨arguments, harguments⟩
      · rw [htwice]
        rintro ⟨-, hreads⟩
        have hdeclares : spec.DeclaresKey "K" := ⟨_, List.mem_of_getElem? (i := 2) rfl, rfl, rfl⟩
        have hsame : 0 = 1 := hreads.once 0 1 "K" rfl rfl hdeclares
        cases hsame

end LispEngine
