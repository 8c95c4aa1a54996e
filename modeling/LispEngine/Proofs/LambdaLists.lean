import Mathlib.Data.List.Induction
import LispEngine.Call.Binding
import LispEngine.Compiler.Parameters

/-!
# Lambda lists that the reader accepts

The reader declares no name twice and no record of a supply twice, and it never goes back to an
earlier role. What holds of the reader at the start, and is kept by every token it takes, holds of
every lambda list that it accepts.
-/

namespace LispEngine

namespace Role

def rank : Role → Nat
  | mandatory => 0
  | optional => 1
  | rest => 2
  | keyword | restThenKeyword => 3
  | mandatoryAfterOptional => 4

theorem rank_le_of_next? {role next : Role} {marker : Marker} (h : role.next? marker = some next) :
    role.rank ≤ next.rank := by
  unfold next? at h
  split at h <;> cases h <;> decide

end Role

namespace LambdaList

variable {N : Type} {spec : LambdaList N}

def ofList (parameters : List (Parameter N)) : LambdaList N := parameters.foldl add empty

def names (spec : LambdaList N) : List String := spec.parameters.map (·.name)

def flags (spec : LambdaList N) : List String := spec.parameters.filterMap (·.suppliedFlag)

/-- What was noted down about parameters: the places of names and of supply records are those of the
parameters that declare them, and it is known whether there is a parameter for the rest. -/
structure Indexed (spec : LambdaList N) : Prop where
  name (name : String) (index : Nat) : spec.indexOf? name = some index ↔
    ∃ p, spec.parameters[index]? = some p ∧ p.name = name
  flag (flag : String) (index : Nat) : spec.flagIndex? flag = some index ↔
    ∃ p, spec.parameters[index]? = some p ∧ p.suppliedFlag = some flag
  rest : spec.hasRest = true ↔ ∃ p ∈ spec.parameters, p.role = .rest

@[simp] theorem parameters_ofList (parameters : List (Parameter N)) :
    (ofList parameters).parameters = parameters := by
  induction parameters using List.reverseRecOn with
  | nil => rfl
  | append_singleton ps p ih => simpa [ofList, List.foldl_append, add] using ih

/-- No two parameters have the same name, no two of them record their supply under the same name, at
most one takes the rest, roles come in their order, and what was noted down is true. -/
structure Orderly (spec : LambdaList N) : Prop where
  distinct : spec.names.Nodup
  distinctFlags : spec.flags.Nodup
  oneRest : spec.countRole .rest ≤ 1
  ordered : spec.parameters.Pairwise (·.role.rank ≤ ·.role.rank)
  indexed : spec.Indexed

namespace Indexed

variable (h : spec.Indexed)

include h

theorem isSome_indexOf? {name : String} :
    (spec.indexOf? name).isSome = true ↔ name ∈ spec.names := by
  rw [Option.isSome_iff_exists]
  constructor
  · rintro ⟨index, hindex⟩
    obtain ⟨p, hp, rfl⟩ := (h.name name index).mp hindex
    exact List.mem_map_of_mem (List.mem_of_getElem? hp)
  · intro hname
    obtain ⟨p, hp, rfl⟩ := List.mem_map.mp hname
    obtain ⟨index, hindex⟩ := List.getElem?_of_mem hp
    exact ⟨index, (h.name p.name index).mpr ⟨p, hindex, rfl⟩⟩

theorem isSome_flagIndex? {flag : String} :
    (spec.flagIndex? flag).isSome = true ↔ flag ∈ spec.flags := by
  rw [Option.isSome_iff_exists]
  constructor
  · rintro ⟨index, hindex⟩
    obtain ⟨p, hp, hflag⟩ := (h.flag flag index).mp hindex
    exact List.mem_filterMap.mpr ⟨p, List.mem_of_getElem? hp, hflag⟩
  · intro hflag
    obtain ⟨p, hp, hflag⟩ := List.mem_filterMap.mp hflag
    obtain ⟨index, hindex⟩ := List.getElem?_of_mem hp
    exact ⟨index, (h.flag flag index).mpr ⟨p, hindex, hflag⟩⟩

theorem indexOf?_eq_none_iff {name : String} : spec.indexOf? name = none ↔ name ∉ spec.names := by
  rw [← h.isSome_indexOf?, Option.not_isSome_iff_eq_none]

theorem flagIndex?_eq_none_iff {flag : String} :
    spec.flagIndex? flag = none ↔ flag ∉ spec.flags := by
  rw [← h.isSome_flagIndex?, Option.not_isSome_iff_eq_none]

theorem lt_size {name : String} {index : Nat}
    (hindex : spec.indexOf? name = some index ∨ spec.flagIndex? name = some index) :
    index < spec.size := by
  rcases hindex with hname | hflag
  · obtain ⟨p, hp, -⟩ := (h.name name index).mp hname
    exact (List.getElem?_eq_some_iff.mp hp).1
  · obtain ⟨p, hp, -⟩ := (h.flag name index).mp hflag
    exact (List.getElem?_eq_some_iff.mp hp).1

theorem countRole_rest_eq_zero (hrest : spec.hasRest = false) : spec.countRole .rest = 0 := by
  rw [countRole, List.countP_eq_zero]
  intro p hp hrole
  have hsome : spec.hasRest = true := h.rest.mpr ⟨p, hp, beq_iff_eq.mp hrole⟩
  rw [hrest] at hsome
  cases hsome

theorem isNone_restIndex? : spec.restIndex?.isNone = !spec.hasRest := by
  rw [Bool.eq_iff_iff, restIndex?, Option.isNone_iff_eq_none, List.findIdx?_eq_none_iff,
    Bool.not_eq_true', ← Bool.not_eq_true, h.rest]
  simp

end Indexed

theorem Orderly.countRole_rest (h : spec.Orderly) :
    spec.countRole .rest = if spec.hasRest then 1 else 0 := by
  cases hrest : spec.hasRest with
  | false => simpa using h.indexed.countRole_rest_eq_zero hrest
  | true =>
      have hpos : 0 < spec.countRole .rest := by
        rw [countRole, List.countP_pos_iff]
        simpa using h.indexed.rest.mp hrest
      have hle := h.oneRest
      simp only [if_true]
      omega

theorem Indexed.add (h : spec.Indexed) {p : Parameter N} (hname : p.name ∉ spec.names)
    (hflag : ∀ flag ∈ p.suppliedFlag, flag ∉ spec.flags) : (spec.add p).Indexed where
  name := by
    intro name index
    have hfind : (spec.add p).indexOf? name =
        if name = p.name then some spec.size else spec.indexOf? name := Bindings.find?_insert ..
    have hold (q : Parameter N) (hq : spec.parameters[index]? = some q) : q.name ≠ p.name :=
      fun hsame => hname (hsame ▸ List.mem_map_of_mem (List.mem_of_getElem? hq))
    rw [hfind]
    simp only [LambdaList.add, size, List.getElem?_append, List.getElem?_singleton] at *
    have hspec := h.name name index
    grind
  flag := by
    intro flag index
    have hfind : (spec.add p).flagIndex? flag =
        if p.suppliedFlag = some flag then some spec.size else spec.flagIndex? flag := by
      unfold flagIndex? LambdaList.add
      cases p.suppliedFlag with
      | none => simp
      | some other => simp [Bindings.find?_insert, eq_comm]
    have hold (q : Parameter N) (hq : spec.parameters[index]? = some q)
        (hsame : q.suppliedFlag = some flag) : p.suppliedFlag ≠ some flag :=
      fun hother => hflag flag hother (List.mem_filterMap.mpr ⟨q, List.mem_of_getElem? hq, hsame⟩)
    rw [hfind]
    simp only [LambdaList.add, size, List.getElem?_append, List.getElem?_singleton] at *
    have hspec := h.flag flag index
    grind
  rest := by
    simp [LambdaList.add, h.rest, or_and_right, exists_or]

theorem indexed_empty : (empty : LambdaList N).Indexed :=
  ⟨by simp [empty, indexOf?, Bindings.find?], by simp [empty, flagIndex?, Bindings.find?],
    by simp [empty]⟩

theorem indexed_ofList {parameters : List (Parameter N)}
    (hnames : (parameters.map (·.name)).Nodup)
    (hflags : (parameters.filterMap (·.suppliedFlag)).Nodup) : (ofList parameters).Indexed := by
  induction parameters using List.reverseRecOn with
  | nil => exact indexed_empty
  | append_singleton ps p ih =>
      rw [List.map_append, List.nodup_append] at hnames
      rw [List.filterMap_append, List.nodup_append] at hflags
      have hdeclared : (ofList ps).parameters = ps := parameters_ofList ps
      rw [ofList, List.foldl_append]
      refine (ih hnames.1 hflags.1).add ?_ ?_
      · rw [names, hdeclared]
        exact fun hmem => hnames.2.2 _ hmem p.name (by simp) rfl
      · intro flag hflag
        rw [flags, hdeclared]
        exact fun hmem => hflags.2.2 _ hmem flag (by simpa using hflag) rfl

end LambdaList

namespace LambdaReader

variable {N V : Type} {reader next : LambdaReader N}

structure MayDeclare (reader : LambdaReader N) (name : String) (flag : Option String)
    (compound : Bool) : Prop where
  takesDefault : compound = true → reader.role = .optional ∨ reader.role.isKeyword = true
  firstRest : reader.role = .rest → reader.spec.hasRest = false
  freshName : reader.spec.indexOf? name = none
  freshFlag : ∀ f ∈ flag,
    f ≠ name ∧ reader.spec.indexOf? f = none ∧ reader.spec.flagIndex? f = none

def declaring (reader : LambdaReader N) (name : String) (default : Option N)
    (flag : Option String) : LambdaReader N :=
  { reader with
    pipePending := false
    pipeUsed := reader.pipeUsed || reader.pipePending
    spec := reader.spec.add (reader.declare name default flag) }

private theorem flagTaken_eq_false_iff {spec : LambdaList N} {name : String}
    {flag : Option String} :
    flagTaken (spec.byName.insert name spec.size) spec.byFlag flag = false ↔
      ∀ f ∈ flag, f ≠ name ∧ spec.indexOf? f = none ∧ spec.flagIndex? f = none := by
  cases flag with
  | none => simp [flagTaken]
  | some f =>
      by_cases hname : f = name
      · simp [flagTaken, Bindings.has, Bindings.find?_insert, hname]
      · simp [flagTaken, Bindings.has, Bindings.find?_insert, hname, LambdaList.indexOf?,
          LambdaList.flagIndex?]

theorem takeName_eq_ok_iff {name : String} {default : Option N} {flag : Option String}
    {compound : Bool} :
    (reader.takeName name default flag compound : Except (CauseOf V) (LambdaReader N)) = .ok next ↔
      reader.MayDeclare name flag compound ∧ next = reader.declaring name default flag := by
  have hfresh : reader.spec.byName.has name = false ↔ reader.spec.indexOf? name = none := by
    simp [Bindings.has, LambdaList.indexOf?]
  unfold takeName
  split
  · rename_i hdefault
    simp only [reduceCtorEq, false_iff, not_and]
    intro hmay
    simp only [Bool.and_eq_true, bne_iff_ne, ne_eq, Bool.not_eq_true'] at hdefault
    rcases hmay.takesDefault hdefault.1.1 with hrole | hrole
    · exact absurd hrole hdefault.1.2
    · simp [hrole] at hdefault
  split
  · rename_i hrest
    simp only [reduceCtorEq, false_iff, not_and]
    intro hmay
    simp only [Bool.and_eq_true, beq_iff_eq] at hrest
    simp [hmay.firstRest hrest.1] at hrest
  split
  · rename_i hname
    simp only [reduceCtorEq, false_iff, not_and]
    intro hmay
    rw [hfresh.mpr hmay.freshName] at hname
    cases hname
  split
  · rename_i hflag
    simp only [reduceCtorEq, false_iff, not_and]
    intro hmay
    rw [flagTaken_eq_false_iff.mpr hmay.freshFlag] at hflag
    cases hflag
  · rename_i hdefault hrest hname hflag
    have hmay : reader.MayDeclare name flag compound := by
      constructor
      · intro hcompound
        by_cases hrole : reader.role = .optional
        · exact .inl hrole
        · simpa [hcompound, hrole] using hdefault
      · intro hrole
        simpa [hrole] using hrest
      · exact hfresh.mp (by simpa using hname)
      · exact flagTaken_eq_false_iff.mp (by simpa using hflag)
    simp [hmay, declaring, eq_comm]

inductive Turn (reader : LambdaReader N) : Marker → LambdaReader N → Prop where
  | lazy : Turn reader .lazy { reader with isLazy := true }
  | eager : Turn reader .eager { reader with isLazy := false }
  | pipe (pending : reader.pipePending = false) (used : reader.pipeUsed = false) :
      Turn reader .pipe { reader with pipePending := true }
  | allowOtherKeys (inKeywords : reader.role.isKeyword = true) :
      Turn reader .allowOtherKeys { reader with
        allowOtherKeys := true
        spec := allowInKeywords reader.spec }
  | role {marker : Marker} {role : Role} (leads : reader.role.next? marker = some role) :
      Turn reader marker { reader with role }

theorem takeMarker_eq_ok_iff {text : String} :
    (reader.takeMarker text : Except (CauseOf V) (LambdaReader N)) = .ok next ↔
      ∃ marker, Marker.ofText? text = some marker ∧ reader.Turn marker next := by
  unfold takeMarker
  constructor
  · intro h
    split at h
    · cases h
    · rename_i hmarker
      cases h
      exact ⟨_, hmarker, .lazy⟩
    · rename_i hmarker
      cases h
      exact ⟨_, hmarker, .eager⟩
    · rename_i hmarker
      split at h
      · cases h
      · rename_i hfree
        cases h
        simp only [Bool.or_eq_true, not_or, Bool.not_eq_true] at hfree
        exact ⟨_, hmarker, .pipe hfree.1 hfree.2⟩
    · rename_i hmarker
      split at h
      · rename_i hrole
        cases h
        exact ⟨_, hmarker, .allowOtherKeys hrole⟩
      · cases h
    · rename_i marker _ _ _ _ hmarker
      split at h
      · rename_i role hnext
        cases h
        exact ⟨_, hmarker, .role hnext⟩
      · cases h
  · rintro ⟨marker, hmarker, hturn⟩
    rw [hmarker]
    cases hturn with
    | lazy => rfl
    | eager => rfl
    | pipe pending used => simp [pending, used]
    | allowOtherKeys inKeywords => simp [inKeywords]
    | role leads =>
        -- the other markers lead to no role
        cases marker <;> simp [Role.next?] at leads ⊢ <;> simp [leads]

/-- What a token does to a reader: it changes the state only, it allows other keys in the keyword
parameters so far, or it declares a parameter whose names are new. -/
inductive Step (reader next : LambdaReader N) : Prop where
  | moved (sameSpec : next.spec = reader.spec) (forward : reader.role.rank ≤ next.role.rank)
  | allowed (sameRole : next.role = reader.role)
      (allows : next.spec = allowInKeywords reader.spec)
  | declared {name : String} {default : Option N} {flag : Option String} {compound : Bool}
      (declares : next = reader.declaring name default flag)
      (may : reader.MayDeclare name flag compound)

private theorem takeMarker_step {text : String}
    (h : (reader.takeMarker text : Except (CauseOf V) (LambdaReader N)) = .ok next) :
    reader.Step next := by
  obtain ⟨marker, -, hturn⟩ := takeMarker_eq_ok_iff.mp h
  cases hturn with
  | lazy => exact .moved rfl (Nat.le_refl _)
  | eager => exact .moved rfl (Nat.le_refl _)
  | pipe => exact .moved rfl (Nat.le_refl _)
  | allowOtherKeys => exact .allowed rfl rfl
  | role leads => exact .moved rfl (Role.rank_le_of_next? leads)

private theorem takeName_step {name : String} {default : Option N} {flag : Option String}
    {compound : Bool}
    (h : (reader.takeName name default flag compound : Except (CauseOf V) (LambdaReader N)) =
      .ok next) : reader.Step next := by
  obtain ⟨hmay, hnext⟩ := takeName_eq_ok_iff.mp h
  exact .declared hnext hmay

theorem take_step {token : LambdaToken N}
    (h : (reader.take token : Except (CauseOf V) (LambdaReader N)) = .ok next) :
    reader.Step next := by
  cases token with
  | marker text => exact takeMarker_step h
  | name name => exact takeName_step h
  | compound name default flag => exact takeName_step h

theorem finish_eq_ok {spec : LambdaList N}
    (h : (reader.finish : Except (CauseOf V) (LambdaList N)) = .ok spec) : reader.spec = spec := by
  unfold finish at h
  split at h
  · cases h
  · cases h
    rfl

section Invariant

variable {I : LambdaReader N → Prop} (hstep : ∀ {reader next}, reader.Step next → I reader → I next)
include hstep

theorem takeAll_keeps {tokens : List (LambdaToken N)} (h : I reader)
    (htake : (reader.takeAll tokens : Except (CauseOf V) (LambdaReader N)) = .ok next) :
    I next := by
  induction tokens generalizing reader with
  | nil =>
      cases htake
      exact h
  | cons token tokens ih =>
      rw [takeAll] at htake
      cases hfirst : (reader.take token : Except (CauseOf V) (LambdaReader N)) with
      | error cause =>
          rw [hfirst] at htake
          cases htake
      | ok middle =>
          rw [hfirst] at htake
          exact ih (hstep (take_step hfirst) h) htake

end Invariant

structure Orderly (reader : LambdaReader N) : Prop where
  spec : reader.spec.Orderly
  behind : ∀ p ∈ reader.spec.parameters, p.role.rank ≤ reader.role.rank

theorem start_orderly : (start : LambdaReader N).Orderly where
  spec := by
    constructor
    · simp [start, LambdaList.empty, LambdaList.names]
    · simp [start, LambdaList.empty, LambdaList.flags]
    · simp [start, LambdaList.empty, LambdaList.countRole]
    · simp [start, LambdaList.empty]
    · exact LambdaList.indexed_empty
  behind := by simp [start, LambdaList.empty]

@[simp] theorem allowed_name (p : Parameter N) :
    (if p.role.isKeyword = true then { p with allowOtherKeys := true } else p).name = p.name := by
  split <;> rfl

@[simp] theorem allowed_role (p : Parameter N) :
    (if p.role.isKeyword = true then { p with allowOtherKeys := true } else p).role = p.role := by
  split <;> rfl

@[simp] theorem allowed_flag (p : Parameter N) :
    (if p.role.isKeyword = true then { p with allowOtherKeys := true } else p).suppliedFlag =
      p.suppliedFlag := by
  split <;> rfl

theorem allowInKeywords_indexed {spec : LambdaList N} (h : spec.Indexed) :
    (allowInKeywords spec).Indexed where
  name name index := by
    refine (h.name name index).trans ?_
    simp only [allowInKeywords, List.getElem?_map, Option.map_eq_some_iff]
    grind [allowed_name]
  flag flag index := by
    refine (h.flag flag index).trans ?_
    simp only [allowInKeywords, List.getElem?_map, Option.map_eq_some_iff]
    grind [allowed_flag]
  rest := by
    refine h.rest.trans ⟨?_, ?_⟩
    · rintro ⟨p, hp, hrole⟩
      exact ⟨_, List.mem_map_of_mem hp, (allowed_role p).trans hrole⟩
    · rintro ⟨q, hq, hrole⟩
      obtain ⟨p, hp, rfl⟩ := List.mem_map.mp hq
      exact ⟨p, hp, (allowed_role p).symm.trans hrole⟩

private theorem allowInKeywords_orderly {spec : LambdaList N} (h : spec.Orderly) :
    (allowInKeywords spec).Orderly := by
  constructor
  · simpa [LambdaList.names, allowInKeywords, Function.comp_def] using h.distinct
  · simpa [LambdaList.flags, allowInKeywords, List.filterMap_map, Function.comp_def]
      using h.distinctFlags
  · simpa [LambdaList.countRole, allowInKeywords, List.countP_map, Function.comp_def]
      using h.oneRest
  · simpa [allowInKeywords, List.pairwise_map] using h.ordered
  · exact allowInKeywords_indexed h.indexed

private theorem declare_orderly {name : String} {default : Option N} {flag : Option String}
    (h : reader.Orderly) (hname : name ∉ reader.spec.names)
    (hflag : ∀ f ∈ flag, f ∉ reader.spec.flags)
    (hrest : reader.role = .rest → reader.spec.hasRest = false) :
    (reader.spec.add (reader.declare name default flag)).Orderly := by
  constructor
  · have hdistinct := h.spec.distinct
    simp only [LambdaList.names, LambdaList.add, List.map_append, List.map_cons, List.map_nil,
      declare, List.nodup_append] at hdistinct hname ⊢
    refine ⟨hdistinct, by simp, ?_⟩
    intro other hother one hone
    rw [List.mem_singleton.mp hone]
    exact fun hsame => hname (hsame ▸ hother)
  · have hdistinct := h.spec.distinctFlags
    simp only [LambdaList.flags, LambdaList.add, List.filterMap_append, declare,
      List.nodup_append] at hdistinct hflag ⊢
    cases flag with
    | none => exact ⟨hdistinct, by simp, by simp⟩
    | some f =>
        refine ⟨hdistinct, by simp, ?_⟩
        intro other hother one hone
        have hone : one = f := by simpa using hone
        exact fun hsame => hflag f rfl (hone ▸ hsame ▸ hother)
  · have hone := h.spec.oneRest
    have hrole : (reader.declare name default flag).role = reader.role := rfl
    simp only [LambdaList.countRole, LambdaList.add, List.countP_append, List.countP_singleton,
      hrole] at hone ⊢
    by_cases hisRest : reader.role = .rest
    · have hzero := h.spec.indexed.countRole_rest_eq_zero (hrest hisRest)
      simp only [LambdaList.countRole] at hzero
      simp [hzero, hisRest]
    · simpa [hisRest] using hone
  · refine List.pairwise_append.mpr ⟨h.spec.ordered, by simp, ?_⟩
    intro p hp one hone
    rw [List.mem_singleton.mp hone]
    exact h.behind p hp
  · exact h.spec.indexed.add hname hflag

theorem Step.orderly (hstep : reader.Step next) (h : reader.Orderly) : next.Orderly := by
  cases hstep with
  | moved sameSpec forward =>
      constructor
      · rw [sameSpec]
        exact h.spec
      · intro p hp
        exact Nat.le_trans (h.behind p (sameSpec ▸ hp)) forward
  | allowed sameRole allows =>
      constructor
      · rw [allows]
        exact allowInKeywords_orderly h.spec
      · intro p hp
        rw [allows] at hp
        obtain ⟨old, hold, rfl⟩ := List.mem_map.mp hp
        rw [sameRole]
        split <;> exact h.behind old hold
  | declared declares may =>
      subst declares
      constructor
      · refine declare_orderly h (h.spec.indexed.indexOf?_eq_none_iff.mp may.freshName) ?_
          may.firstRest
        exact fun f hf => h.spec.indexed.flagIndex?_eq_none_iff.mp (may.freshFlag f hf).2.2
      · intro p hp
        rcases List.mem_append.mp hp with hp | hp
        · exact h.behind p hp
        · rw [List.mem_singleton.mp hp]
          exact Nat.le_refl _

end LambdaReader

/-- A lambda list read from tokens, or compiled from the elements of a form. -/
inductive LambdaList.Accepted (spec : LambdaList Node) : Prop where
  | read {tokens : List (LambdaToken Node)}
      (isRead : (LambdaList.ofTokens tokens : Except Cause (LambdaList Node)) = .ok spec)
  | compiled {inner : FormCompiler} {forms : List Form} {count last : Nat}
      (isCompiled : lambdaList inner forms count = .ok spec last)

theorem ofReader_eq_ok {α : Type} {position : Position} {result : Except Cause α} {a : α}
    {count last : Nat} (h : ofReader position result count = .ok a last) : result = .ok a := by
  cases result with
  | ok b =>
      cases h
      rfl
  | error cause => cases h

section Invariant

variable {I : LambdaReader Node → Prop}
  (hstep : ∀ {reader next}, reader.Step next → I reader → I next)
include hstep

private theorem readParameters_invariant {inner : FormCompiler} {forms : List Form}
    {reader next : LambdaReader Node} {count last : Nat} (h : I reader)
    (hread : readParameters inner reader forms count = .ok next last) : I next := by
  induction forms generalizing reader count with
  | nil =>
      cases hread
      exact h
  | cons form forms ih =>
      change EStateM.bind (parameterToken inner form) _ count = _ at hread
      unfold EStateM.bind at hread
      split at hread
      · rename_i token middle _
        change EStateM.bind (ofReader form.position (reader.take token)) _ middle = _ at hread
        unfold EStateM.bind at hread
        split at hread
        · rename_i taken later htaken
          exact ih (hstep (LambdaReader.take_step (ofReader_eq_ok htaken)) h) hread
        · cases hread
      · cases hread

theorem LambdaList.Accepted.reader {spec : LambdaList Node} (h : spec.Accepted)
    (hstart : I .start) :
    ∃ reader, I reader ∧ reader.spec = spec := by
  cases h with
  | read isRead =>
      rename_i tokens
      unfold LambdaList.ofTokens at isRead
      cases htake : (LambdaReader.start.takeAll tokens : Except Cause (LambdaReader Node)) with
      | error cause =>
          rw [htake] at isRead
          cases isRead
      | ok reader =>
          rw [htake] at isRead
          exact ⟨reader, LambdaReader.takeAll_keeps hstep hstart htake,
            LambdaReader.finish_eq_ok isRead⟩
  | compiled isCompiled =>
      change EStateM.bind (readParameters _ .start _) _ _ = _ at isCompiled
      unfold EStateM.bind at isCompiled
      split at isCompiled
      · rename_i reader middle hread
        exact ⟨reader, readParameters_invariant hstep hstart hread,
          LambdaReader.finish_eq_ok (ofReader_eq_ok isCompiled)⟩
      · cases isCompiled

end Invariant

theorem LambdaList.Accepted.orderly {spec : LambdaList Node} (h : spec.Accepted) :
    spec.Orderly := by
  obtain ⟨reader, horderly, rfl⟩ :=
    h.reader LambdaReader.Step.orderly LambdaReader.start_orderly
  exact horderly.spec

end LispEngine
