import Mathlib.Data.List.Induction
import Mathlib.Data.List.Nodup
import LispEngine.Proofs.LambdaLists

/-!
# The grammar of lambda lists

Which lists of tokens the reader of lambda lists accepts, and what the parameters of an accepted
list are, said on the tokens alone: a parameter takes its role, its laziness and its pipe mark from
the tokens before it, and other keys are allowed by a marker anywhere. The names of accepted lambda
lists are told apart, but for one case: a parameter may take the name of an earlier supply record.
-/

namespace LispEngine

/-! ## Declared names -/

namespace LambdaList

variable {N : Type} {spec : LambdaList N}

/-- No supply record has the name of its own parameter or of an earlier one. -/
structure FlagsFresh (spec : LambdaList N) : Prop where
  own : ∀ p ∈ spec.parameters, p.suppliedFlag ≠ some p.name
  earlier : spec.parameters.Pairwise fun p q => q.suppliedFlag ≠ some p.name

/-- No parameter has the name of the supply record of an earlier one. -/
def KeepsFlags (spec : LambdaList N) : Prop :=
  spec.parameters.Pairwise fun p q => p.suppliedFlag ≠ some q.name

theorem FlagsFresh.keepsFlags_iff (h : spec.FlagsFresh) :
    spec.KeepsFlags ↔ ∀ p ∈ spec.parameters, ∀ q ∈ spec.parameters,
      p.suppliedFlag ≠ some q.name := by
  constructor
  · intro hkeeps p hp q hq
    obtain ⟨i, hi, rfl⟩ := List.getElem_of_mem hp
    obtain ⟨j, hj, rfl⟩ := List.getElem_of_mem hq
    rcases Nat.lt_trichotomy i j with hlt | rfl | hgt
    · exact List.pairwise_iff_getElem.mp hkeeps i j hi hj hlt
    · exact h.own _ hp
    · exact List.pairwise_iff_getElem.mp h.earlier j i hj hi hgt
  · intro hall
    exact List.Pairwise.imp_of_mem (fun hp hq _ => hall _ hp _ hq)
      (List.pairwise_of_forall fun _ _ => trivial)

end LambdaList

namespace LambdaReader

variable {N : Type} {reader next : LambdaReader N}

private theorem start_flagsFresh : (start : LambdaReader N).spec.FlagsFresh := by
  constructor
  · simp [start, LambdaList.empty]
  · simp [start, LambdaList.empty]

theorem Step.flagsFresh (hstep : reader.Step next) (horderly : reader.Orderly)
    (h : reader.spec.FlagsFresh) : next.spec.FlagsFresh := by
  cases hstep with
  | moved sameSpec => rwa [sameSpec]
  | allowed sameRole allows =>
      rw [allows]
      constructor
      · simpa [allowInKeywords] using h.own
      · simpa [allowInKeywords, List.pairwise_map] using h.earlier
  | @declared name default flag compound declares may =>
      subst declares
      constructor
      · intro p hp
        rcases List.mem_append.mp hp with hp | hp
        · exact h.own p hp
        · rw [List.mem_singleton.mp hp]
          intro hown
          exact (may.freshFlag name hown).1 rfl
      · refine List.pairwise_append.mpr ⟨h.earlier, by simp, ?_⟩
        intro p hp q hq
        rw [List.mem_singleton.mp hq]
        intro hnamed
        have hfresh := (may.freshFlag p.name hnamed).2.1
        exact horderly.spec.indexed.indexOf?_eq_none_iff.mp hfresh (List.mem_map_of_mem hp)

end LambdaReader

namespace LambdaList

theorem Accepted.flagsFresh {spec : LambdaList Node} (h : spec.Accepted) : spec.FlagsFresh := by
  obtain ⟨reader, ⟨-, hfresh⟩, rfl⟩ := h.reader
    (I := fun reader => reader.Orderly ∧ reader.spec.FlagsFresh)
    (fun hstep hreader => ⟨hstep.orderly hreader.1, hstep.flagsFresh hreader.1 hreader.2⟩)
    ⟨LambdaReader.start_orderly, LambdaReader.start_flagsFresh⟩
  exact hfresh

variable {spec : LambdaList Node}

/-- In an accepted lambda list no two parameters and no two supply records share a name, and no
supply record has the name of its own parameter or of an earlier one. All names are told apart, so
that each of them stands for one parameter or for one record, exactly if no parameter takes the name
of an earlier record. -/
theorem Accepted.names_distinct_iff (h : spec.Accepted) :
    (spec.names.Nodup ∧ spec.flags.Nodup ∧ spec.FlagsFresh) ∧
      ((spec.names ++ spec.flags).Nodup ↔ spec.KeepsFlags) ∧
      ((∀ name, (spec.indexOf? name).isSome = true → spec.flagIndex? name = none) ↔
        spec.KeepsFlags) := by
  have horderly := h.orderly
  have hindexed := horderly.indexed
  have hfresh := h.flagsFresh
  refine ⟨⟨horderly.distinct, horderly.distinctFlags, hfresh⟩, ?_, ?_⟩
  · rw [List.nodup_append, hfresh.keepsFlags_iff]
    constructor
    · rintro ⟨-, -, hdisjoint⟩ p hp q hq hflag
      exact hdisjoint q.name (List.mem_map_of_mem hq) q.name
        (List.mem_filterMap.mpr ⟨p, hp, hflag⟩) rfl
    · intro hall
      refine ⟨horderly.distinct, horderly.distinctFlags, ?_⟩
      intro name hname flag hflag
      obtain ⟨q, hq, rfl⟩ := List.mem_map.mp hname
      obtain ⟨p, hp, hrecord⟩ := List.mem_filterMap.mp hflag
      rintro rfl
      exact hall p hp q hq hrecord
  · rw [hfresh.keepsFlags_iff]
    constructor
    · intro hall p hp q hq hflag
      have hnone := hall q.name (hindexed.isSome_indexOf?.mpr (List.mem_map_of_mem hq))
      have hsome := hindexed.isSome_flagIndex?.mpr (List.mem_filterMap.mpr ⟨p, hp, hflag⟩)
      rw [hnone] at hsome
      cases hsome
    · intro hall name hname
      obtain ⟨q, hq, rfl⟩ := List.mem_map.mp (hindexed.isSome_indexOf?.mp hname)
      rw [hindexed.flagIndex?_eq_none_iff]
      intro hflag
      obtain ⟨p, hp, hrecord⟩ := List.mem_filterMap.mp hflag
      exact hall p hp q hq hrecord

/-- A lambda list in which two parameters record their supply, and all four names differ. -/
theorem Accepted.names_distinct_iff_two_flags :
    let spec : LambdaList Node := .ofList [⟨"A", .optional, none, some "P", false, false, false⟩,
      ⟨"B", .keyword, none, some "Q", false, false, false⟩]
    (LambdaList.ofTokens [.marker "&OPTIONAL", .compound "A" none (some "P"), .marker "&KEY",
      .compound "B" none (some "Q")] : Except Cause (LambdaList Node)) = .ok spec ∧
    (spec.names ++ spec.flags).Nodup ∧ spec.flagIndex? "A" = none := by
  intro spec
  have hoptional : Marker.ofText? "&OPTIONAL" = some .optional := by decide +kernel
  have hkey : Marker.ofText? "&KEY" = some .key := by decide +kernel
  have hread : (LambdaList.ofTokens [.marker "&OPTIONAL", .compound "A" none (some "P"),
      .marker "&KEY", .compound "B" none (some "Q")] : Except Cause (LambdaList Node)) =
        .ok spec := by
    simp only [LambdaList.ofTokens, LambdaReader.takeAll, LambdaReader.take,
      LambdaReader.takeMarker, hoptional, hkey]
    rfl
  have hkeeps : spec.KeepsFlags := by simp [KeepsFlags, spec, ofList, add, empty]
  obtain ⟨-, hdistinct, hresolves⟩ := Accepted.names_distinct_iff (.read hread)
  exact ⟨hread, hdistinct.mpr hkeeps, hresolves.mpr hkeeps "A" rfl⟩

/-- The second parameter has the name under which the first one records its supply. -/
theorem accepts_name_of_earlier_flag :
    let spec : LambdaList Node := .ofList [⟨"A", .optional, none, some "B", false, false, false⟩,
      ⟨"B", .optional, none, none, false, false, false⟩]
    (LambdaList.ofTokens [.marker "&OPTIONAL", .compound "A" none (some "B"), .name "B"] :
      Except Cause (LambdaList Node)) = .ok spec ∧
    ¬(spec.names ++ spec.flags).Nodup ∧ spec.indexOf? "B" = some 1 ∧
      spec.flagIndex? "B" = some 0 := by
  intro spec
  have hoptional : Marker.ofText? "&OPTIONAL" = some .optional := by decide +kernel
  have hread : (LambdaList.ofTokens [.marker "&OPTIONAL", .compound "A" none (some "B"),
      .name "B"] : Except Cause (LambdaList Node)) = .ok spec := by
    simp only [LambdaList.ofTokens, LambdaReader.takeAll, LambdaReader.take,
      LambdaReader.takeMarker, hoptional]
    rfl
  refine ⟨hread, ?_, rfl, rfl⟩
  simp [spec, ofList, names, flags, add, empty]

end LambdaList

/-! ## The automaton of roles -/

namespace Marker

def introducesRole : Marker → Bool
  | required | optional | rest | key => true
  | _ => false

def saysLaziness : Marker → Bool
  | lazy | eager => true
  | _ => false

end Marker

namespace Role

inductive Edge : Role → Marker → Role → Prop where
  | optional : Edge .mandatory .optional .optional
  | rest : Edge .mandatory .rest .rest
  | key : Edge .mandatory .key .keyword
  | keyAfterOptional : Edge .optional .key .keyword
  | keyAfterRest : Edge .rest .key .restThenKeyword
  | requiredAfterOptional : Edge .optional .required .mandatoryAfterOptional
  | requiredAfterRest : Edge .rest .required .mandatoryAfterOptional
  | requiredAfterKeyword : Edge .keyword .required .mandatoryAfterOptional
  | requiredAfterRestThenKeyword : Edge .restThenKeyword .required .mandatoryAfterOptional

theorem next?_eq_some_iff {role next : Role} {marker : Marker} :
    role.next? marker = some next ↔ Edge role marker next := by
  constructor
  · intro h
    cases role <;> cases marker <;> cases h <;> constructor
  · rintro ⟨⟩ <;> rfl

theorem Edge.introducesRole {role next : Role} {marker : Marker} (h : Edge role marker next) :
    marker.introducesRole = true := by
  cases h <;> rfl

theorem Edge.saysLaziness {role next : Role} {marker : Marker} (h : Edge role marker next) :
    marker.saysLaziness = false := by
  cases h <;> rfl

def Path : Role → List Marker → Role → Prop
  | role, [], last => role = last
  | role, marker :: markers, last => ∃ next, Edge role marker next ∧ Path next markers last

theorem path_concat {role last : Role} {markers : List Marker} {marker : Marker} :
    Path role (markers ++ [marker]) last ↔
      ∃ next, Path role markers next ∧ Edge next marker last := by
  induction markers generalizing role with
  | nil => simp [Path]
  | cons first markers ih =>
      simp only [List.cons_append, Path, ih]
      constructor
      · rintro ⟨second, hedge, next, hpath, hlast⟩
        exact ⟨next, ⟨second, hedge, hpath⟩, hlast⟩
      · rintro ⟨next, ⟨second, hedge, hpath⟩, hlast⟩
        exact ⟨second, hedge, next, hpath, hlast⟩

theorem Path.unique {role last last' : Role} {markers : List Marker} (h : Path role markers last)
    (h' : Path role markers last') : last = last' := by
  induction markers generalizing role with
  | nil =>
      simp only [Path] at h h'
      rw [← h, ← h']
  | cons marker markers ih =>
      obtain ⟨next, hedge, hpath⟩ := h
      obtain ⟨next', hedge', hpath'⟩ := h'
      have hnext : some next = some next' :=
        (next?_eq_some_iff.mpr hedge).symm.trans (next?_eq_some_iff.mpr hedge')
      cases hnext
      exact ih hpath hpath'

end Role

/-! ## Tokens -/

namespace LambdaToken

def isName (token : String) : Bool := !isMarkerText token

def marker? (token : String) : Option Marker :=
  if isMarkerText token then Marker.ofText? token else none

def namesIn (tokens : List String) : List String := tokens.filter isName

def markersIn (tokens : List String) : List Marker := tokens.filterMap marker?

def RoleAfter (tokens : List String) : Role → Prop :=
  Role.Path .mandatory ((markersIn tokens).filter Marker.introducesRole)

def lazyAfter (tokens : List String) : Bool :=
  ((markersIn tokens).filter Marker.saysLaziness).getLast? == some .lazy

/-- A pipe marker stands among the tokens, and no name comes after it. -/
def PipeAwaits (tokens : List String) : Prop :=
  ∃ before token, before ++ [token] <+: tokens ∧ marker? token = some .pipe ∧
    namesIn before = namesIn tokens

variable {before tokens : List String} {token : String} {marker : Marker} {role : Role}

theorem marker?_of_isName (h : isName token = true) : marker? token = none := by
  simp only [isName, Bool.not_eq_true'] at h
  simp [marker?, h]

theorem isName_of_marker? (h : marker? token = some marker) : isName token = false := by
  unfold marker? at h
  split at h
  · rename_i htext
    simp [isName, htext]
  · cases h

theorem namesIn_concat_name (h : isName token = true) :
    namesIn (tokens ++ [token]) = namesIn tokens ++ [token] := by
  simp [namesIn, h]

theorem namesIn_concat_marker (h : marker? token = some marker) :
    namesIn (tokens ++ [token]) = namesIn tokens := by
  simp [namesIn, isName_of_marker? h]

theorem markersIn_concat_name (h : isName token = true) :
    markersIn (tokens ++ [token]) = markersIn tokens := by
  simp [markersIn, marker?_of_isName h]

theorem markersIn_concat_marker (h : marker? token = some marker) :
    markersIn (tokens ++ [token]) = markersIn tokens ++ [marker] := by
  simp [markersIn, h]

theorem RoleAfter.unique {other : Role} (h : RoleAfter tokens role) (h' : RoleAfter tokens other) :
    role = other :=
  Role.Path.unique h h'

theorem roleAfter_concat_name (h : isName token = true) :
    RoleAfter (tokens ++ [token]) role ↔ RoleAfter tokens role := by
  simp [RoleAfter, markersIn_concat_name h]

theorem roleAfter_concat_other (h : marker? token = some marker)
    (hother : marker.introducesRole = false) :
    RoleAfter (tokens ++ [token]) role ↔ RoleAfter tokens role := by
  simp [RoleAfter, markersIn_concat_marker h, hother]

theorem roleAfter_concat_role (h : marker? token = some marker)
    (hrole : marker.introducesRole = true) :
    RoleAfter (tokens ++ [token]) role ↔
      ∃ previous, RoleAfter tokens previous ∧ Role.Edge previous marker role := by
  simp [RoleAfter, markersIn_concat_marker h, hrole, Role.path_concat]

theorem prefix_concat_cases {name : String} (h : before ++ [name] <+: tokens ++ [token]) :
    before ++ [name] <+: tokens ∨ before = tokens ∧ name = token := by
  rcases List.prefix_concat_iff.mp h with heq | hprefix
  · simpa using Or.inr (List.append_inj' heq rfl)
  · exact .inl hprefix

private theorem length_namesIn_le (h : before <+: tokens) :
    (namesIn before).length ≤ (namesIn tokens).length :=
  (h.filter isName).length_le

theorem pipeAwaits_concat_name (h : isName token = true) : ¬PipeAwaits (tokens ++ [token]) := by
  rintro ⟨before, pipe, hplace, hpipe, hnames⟩
  rcases prefix_concat_cases hplace with hprefix | ⟨-, rfl⟩
  · have hle := length_namesIn_le ((List.prefix_append before [pipe]).trans hprefix)
    rw [hnames, namesIn_concat_name h, List.length_append, List.length_singleton] at hle
    omega
  · rw [marker?_of_isName h] at hpipe
    cases hpipe

theorem pipeAwaits_concat_marker (h : marker? token = some marker) :
    PipeAwaits (tokens ++ [token]) ↔ PipeAwaits tokens ∨ marker = .pipe := by
  unfold PipeAwaits
  rw [namesIn_concat_marker h]
  constructor
  · rintro ⟨before, pipe, hplace, hpipe, hnames⟩
    rcases prefix_concat_cases hplace with hprefix | ⟨-, rfl⟩
    · exact .inl ⟨before, pipe, hprefix, hpipe, hnames⟩
    · exact .inr (Option.some.inj (h.symm.trans hpipe))
  · rintro (⟨before, pipe, hprefix, hpipe, hnames⟩ | rfl)
    · exact ⟨before, pipe, hprefix.trans (List.prefix_append tokens [token]), hpipe, hnames⟩
    · exact ⟨tokens, token, List.prefix_rfl, h, rfl⟩

theorem exists_name_at {index : Nat} (h : index < (namesIn tokens).length) :
    ∃ before name, before ++ [name] <+: tokens ∧ isName name = true ∧
      (namesIn before).length = index := by
  induction tokens using List.reverseRecOn with
  | nil => simp [namesIn] at h
  | append_singleton tokens token ih =>
      by_cases hindex : index < (namesIn tokens).length
      · obtain ⟨before, name, hprefix, hname, hlength⟩ := ih hindex
        exact ⟨before, name, hprefix.trans (List.prefix_append tokens [token]), hname, hlength⟩
      · cases hname : isName token with
        | false =>
            have hsame : namesIn (tokens ++ [token]) = namesIn tokens := by simp [namesIn, hname]
            rw [hsame] at h
            omega
        | true =>
            rw [namesIn_concat_name hname, List.length_append, List.length_singleton] at h
            exact ⟨tokens, token, List.prefix_rfl, hname, by omega⟩

theorem ofText?_isSome_iff :
    (Marker.ofText? token).isSome = true ↔
      ∃ marker ∈ Marker.all, marker.text = Text.canonical token := by
  simp [Marker.ofText?]

/-! ## The grammar -/

structure Readable (tokens : List String) : Prop where
  known : ∀ token ∈ tokens, isMarkerText token = true →
    ∃ marker ∈ Marker.all, marker.text = Text.canonical token
  roles : ∃ role, RoleAfter tokens role
  otherKeys : ∀ before token, before ++ [token] <+: tokens →
    marker? token = some .allowOtherKeys → ∃ role, RoleAfter before role ∧ role.isKeyword = true
  onePipe : (markersIn tokens).count .pipe ≤ 1
  oneRest : ∀ before name, before ++ [name] <+: tokens → isName name = true →
    RoleAfter before .rest → ∀ earlier other, earlier ++ [other] <+: before → isName other = true →
      ¬RoleAfter earlier .rest
  distinct : (namesIn tokens).Nodup

structure Grammatical (tokens : List String) : Prop extends Readable tokens where
  pipeTaken : ¬PipeAwaits tokens

structure NameFits (tokens : List String) (name : String) : Prop where
  fresh : name ∉ namesIn tokens
  firstRest : RoleAfter tokens .rest → ∀ earlier other, earlier ++ [other] <+: tokens →
    isName other = true → ¬RoleAfter earlier .rest

structure MarkerFits (tokens : List String) (marker : Marker) : Prop where
  leads : marker.introducesRole = true →
    ∃ previous role, RoleAfter tokens previous ∧ Role.Edge previous marker role
  inKeywords : marker = .allowOtherKeys → ∃ role, RoleAfter tokens role ∧ role.isKeyword = true
  firstPipe : marker = .pipe → .pipe ∉ markersIn tokens

theorem readable_nil : Readable [] := by
  constructor
  · simp
  · exact ⟨.mandatory, rfl⟩
  · simp
  · simp [markersIn]
  · simp
  · simp [namesIn]

theorem Readable.of_concat (h : Readable (tokens ++ [token])) : Readable tokens := by
  have hmore := List.prefix_append tokens [token]
  constructor
  · intro other hother
    exact h.known other (by simp [hother])
  · obtain ⟨role, hrole⟩ := h.roles
    cases hname : isName token with
    | true => exact ⟨role, (roleAfter_concat_name hname).mp hrole⟩
    | false =>
        cases hmarker : marker? token with
        | none => exact ⟨role, by simpa [RoleAfter, markersIn, hmarker] using hrole⟩
        | some marker =>
            cases hintroduces : marker.introducesRole with
            | false => exact ⟨role, (roleAfter_concat_other hmarker hintroduces).mp hrole⟩
            | true =>
                -- the last edge of a path is taken away
                obtain ⟨previous, hprevious, -⟩ :=
                  (roleAfter_concat_role hmarker hintroduces).mp hrole
                exact ⟨previous, hprevious⟩
  · intro before other hplace
    exact h.otherKeys before other (hplace.trans hmore)
  · have hcount := h.onePipe
    simp only [markersIn, List.filterMap_append, List.count_append] at hcount ⊢
    omega
  · intro before name hplace
    exact h.oneRest before name (hplace.trans hmore)
  · have hdistinct := h.distinct
    rw [namesIn, List.filter_append, List.nodup_append] at hdistinct
    exact hdistinct.1

theorem readable_concat_name (hname : isName token = true) :
    Readable (tokens ++ [token]) ↔ Readable tokens ∧ NameFits tokens token := by
  constructor
  · intro h
    refine ⟨h.of_concat, ?_, ?_⟩
    · have hdistinct := h.distinct
      rw [namesIn_concat_name hname, ← List.concat_eq_append, List.nodup_concat] at hdistinct
      exact hdistinct.1
    · exact h.oneRest tokens token List.prefix_rfl hname
  · rintro ⟨h, hfits⟩
    constructor
    · intro other hother htext
      rcases List.mem_append.mp hother with hold | hnew
      · exact h.known other hold htext
      · rw [List.mem_singleton.mp hnew] at htext
        simp [isName, htext] at hname
    · obtain ⟨role, hrole⟩ := h.roles
      exact ⟨role, (roleAfter_concat_name hname).mpr hrole⟩
    · intro before other hplace hmarker
      rcases prefix_concat_cases hplace with hprefix | ⟨-, rfl⟩
      · exact h.otherKeys before other hprefix hmarker
      · rw [marker?_of_isName hname] at hmarker
        cases hmarker
    · rw [markersIn_concat_name hname]
      exact h.onePipe
    · intro before other hplace hother
      rcases prefix_concat_cases hplace with hprefix | ⟨rfl, rfl⟩
      · exact h.oneRest before other hprefix hother
      · exact hfits.firstRest
    · rw [namesIn_concat_name hname, ← List.concat_eq_append, List.nodup_concat]
      exact ⟨hfits.fresh, h.distinct⟩

theorem readable_concat_marker (hmarker : marker? token = some marker) :
    Readable (tokens ++ [token]) ↔ Readable tokens ∧ MarkerFits tokens marker := by
  have hnot := isName_of_marker? hmarker
  constructor
  · intro h
    refine ⟨h.of_concat, ?_, ?_, ?_⟩
    · intro hintroduces
      obtain ⟨role, hrole⟩ := h.roles
      obtain ⟨previous, hprevious, hedge⟩ := (roleAfter_concat_role hmarker hintroduces).mp hrole
      exact ⟨previous, role, hprevious, hedge⟩
    · rintro rfl
      exact h.otherKeys tokens token List.prefix_rfl hmarker
    · rintro rfl
      have hcount := h.onePipe
      rw [markersIn_concat_marker hmarker, List.count_append, List.count_singleton_self] at hcount
      exact List.count_eq_zero.mp (by omega)
  · rintro ⟨h, hfits⟩
    constructor
    · intro other hother htext
      rcases List.mem_append.mp hother with hold | hnew
      · exact h.known other hold htext
      · rw [List.mem_singleton.mp hnew] at htext ⊢
        rw [marker?, if_pos htext] at hmarker
        exact ofText?_isSome_iff.mp (by rw [hmarker]; rfl)
    · cases hintroduces : marker.introducesRole with
      | false =>
          obtain ⟨role, hrole⟩ := h.roles
          exact ⟨role, (roleAfter_concat_other hmarker hintroduces).mpr hrole⟩
      | true =>
          obtain ⟨previous, role, hprevious, hedge⟩ := hfits.leads hintroduces
          exact ⟨role, (roleAfter_concat_role hmarker hintroduces).mpr ⟨previous, hprevious, hedge⟩⟩
    · intro before other hplace hother
      rcases prefix_concat_cases hplace with hprefix | ⟨rfl, rfl⟩
      · exact h.otherKeys before other hprefix hother
      · exact hfits.inKeywords (Option.some.inj (hmarker.symm.trans hother))
    · rw [markersIn_concat_marker hmarker, List.count_append, List.count_singleton]
      have hcount := h.onePipe
      split
      · rename_i hpipe
        have hnone := List.count_eq_zero.mpr (hfits.firstPipe (by simpa using hpipe))
        omega
      · omega
    · intro before other hplace hother
      rcases prefix_concat_cases hplace with hprefix | ⟨-, rfl⟩
      · exact h.oneRest before other hprefix hother
      · rw [hnot] at hother
        cases hother
    · rw [namesIn_concat_marker hmarker]
      exact h.distinct

end LambdaToken

/-- What the parameters of a lambda list owe to its tokens. -/
structure LambdaList.Describes {N : Type} (spec : LambdaList N) (tokens : List String) : Prop where
  names : spec.names = LambdaToken.namesIn tokens
  parameter : ∀ before name, before ++ [name] <+: tokens → LambdaToken.isName name = true →
    ∃ p, spec.parameters[(LambdaToken.namesIn before).length]? = some p ∧ p.name = name ∧
      LambdaToken.RoleAfter before p.role ∧ p.isLazy = LambdaToken.lazyAfter before ∧
      (p.isPipe = true ↔ LambdaToken.PipeAwaits before) ∧
      p.default.isNone = true ∧ p.suppliedFlag = none
  otherKeys : ∀ p ∈ spec.parameters, p.allowOtherKeys = true ↔
    p.role.isKeyword = true ∧ .allowOtherKeys ∈ LambdaToken.markersIn tokens
  hasRest : spec.hasRest = true ↔ ∃ p ∈ spec.parameters, p.role = .rest

namespace LambdaReader

open LambdaToken

variable {N V : Type} {reader next : LambdaReader N} {tokens : List String} {token : String}
  {marker : Marker}

structure After (tokens : List String) (reader : LambdaReader N) : Prop where
  role : RoleAfter tokens reader.role
  isLazy : reader.isLazy = lazyAfter tokens
  otherKeys : reader.allowOtherKeys = true ↔ .allowOtherKeys ∈ markersIn tokens
  pending : reader.pipePending = true ↔ PipeAwaits tokens
  pipe : reader.pipePending = true ∨ reader.pipeUsed = true ↔ .pipe ∈ markersIn tokens
  spec : reader.spec.Describes tokens
  indexed : reader.spec.Indexed

theorem start_after : After [] (start : LambdaReader N) := by
  constructor
  · rfl
  · rfl
  · simp [start, markersIn]
  · simp [start, PipeAwaits]
  · simp [start, markersIn]
  · constructor
    · simp [start, LambdaList.empty, LambdaList.names, namesIn]
    · simp
    · simp [start, LambdaList.empty]
    · exact start_orderly.spec.indexed.rest
  · exact start_orderly.spec.indexed

private theorem After.hasRest_eq_false_iff (h : After tokens reader) :
    reader.spec.hasRest = false ↔ ∀ earlier other, earlier ++ [other] <+: tokens →
      isName other = true → ¬RoleAfter earlier .rest := by
  rw [← Bool.not_eq_true, h.spec.hasRest]
  constructor
  · intro hnone earlier other hplace hother hrest
    obtain ⟨p, hp, -, hrole, -⟩ := h.spec.parameter earlier other hplace hother
    exact hnone ⟨p, List.mem_of_getElem? hp, hrole.unique hrest⟩
  · rintro hnone ⟨p, hp, hrest⟩
    -- the place of the parameter is that of a name, which stood in the role of the parameter
    obtain ⟨index, hindex⟩ := List.getElem?_of_mem hp
    have hlt : index < (namesIn tokens).length := by
      have hsome := (List.getElem?_eq_some_iff.mp hindex).1
      rw [← h.spec.names, LambdaList.names, List.length_map]
      exact hsome
    obtain ⟨earlier, other, hplace, hother, rfl⟩ := exists_name_at hlt
    obtain ⟨q, hq, -, hrole, -⟩ := h.spec.parameter earlier other hplace hother
    obtain rfl : p = q := Option.some.inj (hindex.symm.trans hq)
    exact hnone earlier other hplace hother (hrest ▸ hrole)

theorem After.mayDeclare_iff (h : After tokens reader) (name : String) :
    reader.MayDeclare name none false ↔ NameFits tokens name := by
  constructor
  · intro hmay
    constructor
    · rw [← h.spec.names]
      exact h.indexed.indexOf?_eq_none_iff.mp hmay.freshName
    · intro hrest
      exact h.hasRest_eq_false_iff.mp (hmay.firstRest (h.role.unique hrest))
  · intro hfits
    constructor
    · simp
    · intro hrole
      exact h.hasRest_eq_false_iff.mpr (hfits.firstRest (hrole ▸ h.role))
    · rw [h.indexed.indexOf?_eq_none_iff, h.spec.names]
      exact hfits.fresh
    · simp

theorem After.turn_iff (h : After tokens reader) (marker : Marker) :
    (∃ next, reader.Turn marker next) ↔ MarkerFits tokens marker := by
  constructor
  · rintro ⟨next, hturn⟩
    cases hturn with
    | lazy => exact ⟨by simp [Marker.introducesRole], by simp, by simp⟩
    | eager => exact ⟨by simp [Marker.introducesRole], by simp, by simp⟩
    | pipe pending used =>
        refine ⟨by simp [Marker.introducesRole], by simp, ?_⟩
        intro _
        rw [← h.pipe]
        simp [pending, used]
    | allowOtherKeys inKeywords =>
        exact ⟨by simp [Marker.introducesRole], fun _ => ⟨_, h.role, inKeywords⟩, by simp⟩
    | role leads =>
        have hedge := Role.next?_eq_some_iff.mp leads
        refine ⟨fun _ => ⟨_, _, h.role, hedge⟩, ?_, ?_⟩
        · rintro rfl
          cases hedge.introducesRole
        · rintro rfl
          cases hedge.introducesRole
  · intro hfits
    cases marker with
    | lazy => exact ⟨_, .lazy⟩
    | eager => exact ⟨_, .eager⟩
    | pipe =>
        have hnone := hfits.firstPipe rfl
        rw [← h.pipe, not_or, Bool.not_eq_true, Bool.not_eq_true] at hnone
        exact ⟨_, .pipe hnone.1 hnone.2⟩
    | allowOtherKeys =>
        obtain ⟨role, hrole, hkeyword⟩ := hfits.inKeywords rfl
        exact ⟨_, .allowOtherKeys (by rw [h.role.unique hrole]; exact hkeyword)⟩
    | required | optional | rest | key =>
        obtain ⟨previous, role, hprevious, hedge⟩ := hfits.leads rfl
        obtain rfl := h.role.unique hprevious
        exact ⟨_, .role (Role.next?_eq_some_iff.mpr hedge)⟩

theorem After.declaring (h : After tokens reader) (hname : isName token = true)
    (hmay : reader.MayDeclare token none false) :
    After (tokens ++ [token]) (reader.declaring token none none) := by
  have hindexed : (reader.spec.add (reader.declare token none none)).Indexed :=
    h.indexed.add (h.indexed.indexOf?_eq_none_iff.mp hmay.freshName) (by simp [declare])
  have hmarkers : markersIn (tokens ++ [token]) = markersIn tokens := markersIn_concat_name hname
  constructor
  · exact (roleAfter_concat_name hname).mpr h.role
  · rw [lazyAfter, hmarkers]
    exact h.isLazy
  · rw [hmarkers]
    exact h.otherKeys
  · simpa [LambdaReader.declaring] using pipeAwaits_concat_name hname
  · rw [hmarkers, ← h.pipe]
    simp [LambdaReader.declaring, or_comm]
  · have hlength : reader.spec.parameters.length = (namesIn tokens).length := by
      rw [← h.spec.names, LambdaList.names, List.length_map]
    constructor
    · rw [namesIn_concat_name hname, ← h.spec.names]
      simp [LambdaReader.declaring, LambdaList.names, LambdaList.add, declare]
    · intro before name hplace hother
      rcases prefix_concat_cases hplace with hprefix | ⟨rfl, rfl⟩
      · obtain ⟨p, hp, hrest⟩ := h.spec.parameter before name hprefix hother
        refine ⟨p, ?_, hrest⟩
        have hlt := (List.getElem?_eq_some_iff.mp hp).1
        exact (List.getElem?_append_left hlt).trans hp
      · refine ⟨reader.declare name none none, ?_, rfl, h.role, h.isLazy, h.pending, rfl, rfl⟩
        simp [LambdaReader.declaring, LambdaList.add, ← hlength]
    · intro p hp
      rw [hmarkers]
      rcases List.mem_append.mp hp with hold | hnew
      · exact h.spec.otherKeys p hold
      · rw [List.mem_singleton.mp hnew, ← h.otherKeys]
        simp [declare, and_comm]
    · exact hindexed.rest
  · exact hindexed

private theorem describes_concat_marker {spec : LambdaList N} (h : spec.Describes tokens)
    (hmarker : marker? token = some marker) (hother : marker ≠ .allowOtherKeys) :
    spec.Describes (tokens ++ [token]) := by
  constructor
  · rw [namesIn_concat_marker hmarker]
    exact h.names
  · intro before name hplace hname
    rcases prefix_concat_cases hplace with hprefix | ⟨-, rfl⟩
    · exact h.parameter before name hprefix hname
    · rw [isName_of_marker? hmarker] at hname
      cases hname
  · intro p hp
    rw [h.otherKeys p hp, markersIn_concat_marker hmarker]
    simp [hother.symm]
  · exact h.hasRest

private theorem describes_allowInKeywords {spec : LambdaList N} (h : spec.Describes tokens)
    (hindexed : spec.Indexed) (hmarker : marker? token = some .allowOtherKeys) :
    (allowInKeywords spec).Describes (tokens ++ [token]) := by
  constructor
  · rw [namesIn_concat_marker hmarker, ← h.names]
    simp [LambdaList.names, allowInKeywords]
  · intro before name hplace hname
    rcases prefix_concat_cases hplace with hprefix | ⟨-, rfl⟩
    · obtain ⟨p, hp, hfields⟩ := h.parameter before name hprefix hname
      refine ⟨_, by rw [allowInKeywords, List.getElem?_map, hp, Option.map_some], ?_⟩
      split
      · exact hfields
      · exact hfields
    · rw [isName_of_marker? hmarker] at hname
      cases hname
  · intro p hp
    obtain ⟨old, hold, rfl⟩ := List.mem_map.mp hp
    rw [markersIn_concat_marker hmarker]
    cases hrole : old.role.isKeyword with
    | true => simp [hrole]
    | false => simpa [hrole] using h.otherKeys old hold
  · exact (allowInKeywords_indexed hindexed).rest

theorem After.turned (h : After tokens reader) (hmarker : marker? token = some marker)
    (hturn : reader.Turn marker next) : After (tokens ++ [token]) next := by
  have hmarkers : markersIn (tokens ++ [token]) = markersIn tokens ++ [marker] :=
    markersIn_concat_marker hmarker
  have hawaits : PipeAwaits (tokens ++ [token]) ↔ PipeAwaits tokens ∨ marker = .pipe :=
    pipeAwaits_concat_marker hmarker
  cases hturn with
  | lazy | eager =>
      constructor
      · exact (roleAfter_concat_other hmarker rfl).mpr h.role
      · simp [lazyAfter, hmarkers, Marker.saysLaziness]
      · simpa [hmarkers] using h.otherKeys
      · simpa [hawaits] using h.pending
      · simpa [hmarkers] using h.pipe
      · exact describes_concat_marker h.spec hmarker (by simp)
      · exact h.indexed
  | pipe pending used =>
      constructor
      · exact (roleAfter_concat_other hmarker rfl).mpr h.role
      · simpa [lazyAfter, hmarkers, Marker.saysLaziness] using h.isLazy
      · simpa [hmarkers] using h.otherKeys
      · simp [hawaits]
      · simp [hmarkers]
      · exact describes_concat_marker h.spec hmarker (by simp)
      · exact h.indexed
  | allowOtherKeys inKeywords =>
      constructor
      · exact (roleAfter_concat_other hmarker rfl).mpr h.role
      · simpa [lazyAfter, hmarkers, Marker.saysLaziness] using h.isLazy
      · simp [hmarkers]
      · simpa [hawaits] using h.pending
      · simpa [hmarkers] using h.pipe
      · exact describes_allowInKeywords h.spec h.indexed hmarker
      · exact allowInKeywords_indexed h.indexed
  | @role _ role leads =>
      have hedge := Role.next?_eq_some_iff.mp leads
      have hintroduces := hedge.introducesRole
      have hallow : marker ≠ .allowOtherKeys := by rintro rfl; cases hintroduces
      have hpipe : marker ≠ .pipe := by rintro rfl; cases hintroduces
      constructor
      · exact (roleAfter_concat_role hmarker hintroduces).mpr ⟨_, h.role, hedge⟩
      · simpa [lazyAfter, hmarkers, hedge.saysLaziness] using h.isLazy
      · simpa [hmarkers, hallow.symm] using h.otherKeys
      · simpa [hawaits, hpipe] using h.pending
      · simpa [hmarkers, hpipe.symm] using h.pipe
      · exact describes_concat_marker h.spec hmarker hallow
      · exact h.indexed

/-! ## Reading -/

theorem take_name_iff (hname : isName token = true) :
    (reader.take (.ofText token) : Except (CauseOf V) (LambdaReader N)) = .ok next ↔
      reader.MayDeclare token none false ∧ next = reader.declaring token none none := by
  have htext : isMarkerText token = false := by simpa [isName] using hname
  rw [← takeName_eq_ok_iff (V := V)]
  simp [ofText, htext, take]

theorem take_marker_iff (hname : isName token = false) :
    (reader.take (.ofText token) : Except (CauseOf V) (LambdaReader N)) = .ok next ↔
      ∃ marker, marker? token = some marker ∧ reader.Turn marker next := by
  have htext : isMarkerText token = true := by simpa [isName] using hname
  simp [ofText, marker?, htext, take, takeMarker_eq_ok_iff]

theorem After.take_iff (h : After tokens reader) (hreadable : Readable tokens) :
    (∃ next, (reader.take (.ofText token) : Except (CauseOf V) (LambdaReader N)) = .ok next) ↔
      Readable (tokens ++ [token]) := by
  cases hname : isName token with
  | true =>
      rw [readable_concat_name hname, ← h.mayDeclare_iff]
      simp [take_name_iff hname, hreadable]
  | false =>
      cases hmarker : marker? token with
      | none =>
          simp only [take_marker_iff hname, hmarker, reduceCtorEq, false_and, exists_false,
            false_iff]
          intro hknown
          have htext : isMarkerText token = true := by simpa [isName] using hname
          have hsome := ofText?_isSome_iff.mpr (hknown.known token (by simp) htext)
          rw [marker?, if_pos htext] at hmarker
          simp [hmarker] at hsome
      | some marker =>
          rw [readable_concat_marker hmarker, ← h.turn_iff]
          simp [take_marker_iff hname, hmarker, hreadable]

theorem After.taken (h : After tokens reader)
    (htake : (reader.take (.ofText token) : Except (CauseOf V) (LambdaReader N)) = .ok next) :
    After (tokens ++ [token]) next := by
  cases hname : isName token with
  | true =>
      obtain ⟨hmay, rfl⟩ := (take_name_iff hname).mp htake
      exact h.declaring hname hmay
  | false =>
      obtain ⟨marker, hmarker, hturn⟩ := (take_marker_iff hname).mp htake
      exact h.turned hmarker hturn

theorem takeAll_concat {token : LambdaToken N} {tokens : List (LambdaToken N)} :
    (reader.takeAll (tokens ++ [token]) : Except (CauseOf V) (LambdaReader N)) = .ok next ↔
      ∃ middle, (reader.takeAll tokens : Except (CauseOf V) (LambdaReader N)) = .ok middle ∧
        (middle.take token : Except (CauseOf V) (LambdaReader N)) = .ok next := by
  induction tokens generalizing reader with
  | nil =>
      simp only [List.nil_append, takeAll]
      cases htake : (reader.take token : Except (CauseOf V) (LambdaReader N)) with
      | ok middle => simp [bind, Except.bind, htake]
      | error cause => simp [bind, Except.bind, htake]
  | cons first tokens ih =>
      simp only [List.cons_append, takeAll]
      cases reader.take first with
      | ok middle => exact ih
      | error cause => simp [bind, Except.bind]

theorem takeAll_after
    (h : (start.takeAll (tokens.map .ofText) : Except (CauseOf V) (LambdaReader N)) = .ok reader) :
    After tokens reader := by
  induction tokens using List.reverseRecOn generalizing reader with
  | nil =>
      cases h
      exact start_after
  | append_singleton tokens token ih =>
      rw [List.map_append, List.map_singleton, takeAll_concat] at h
      obtain ⟨middle, hmiddle, htake⟩ := h
      exact (ih hmiddle).taken htake

private theorem takeAll_iff :
    (∃ reader, (start.takeAll (tokens.map .ofText) : Except (CauseOf V) (LambdaReader N)) =
      .ok reader) ↔ Readable tokens := by
  induction tokens using List.reverseRecOn with
  | nil => exact ⟨fun _ => readable_nil, fun _ => ⟨start, rfl⟩⟩
  | append_singleton tokens token ih =>
      -- the reader judges a token by those before it, so the induction adds tokens at the end
      simp only [List.map_append, List.map_singleton, takeAll_concat]
      constructor
      · rintro ⟨next, middle, hmiddle, htake⟩
        exact ((takeAll_after hmiddle).take_iff (ih.mp ⟨middle, hmiddle⟩)).mp ⟨next, htake⟩
      · intro hreadable
        obtain ⟨middle, hmiddle⟩ := ih.mpr hreadable.of_concat
        obtain ⟨next, htake⟩ :=
          ((takeAll_after hmiddle).take_iff hreadable.of_concat).mpr hreadable
        exact ⟨next, middle, hmiddle, htake⟩

end LambdaReader

namespace LambdaList

variable {N V : Type} {tokens : List String} {spec : LambdaList N}

theorem parse_eq_ok_iff :
    (parse tokens : Except (CauseOf V) (LambdaList N)) = .ok spec ↔
      ∃ reader : LambdaReader N,
        (LambdaReader.start.takeAll (tokens.map .ofText) : Except (CauseOf V) (LambdaReader N)) =
          .ok reader ∧ reader.pipePending = false ∧ reader.spec = spec := by
  unfold parse ofTokens
  cases (LambdaReader.start.takeAll (tokens.map .ofText) : Except (CauseOf V) (LambdaReader N)) with
  | error cause => simp [bind, Except.bind]
  | ok reader =>
      cases hpending : reader.pipePending with
      | true => simp [bind, Except.bind, LambdaReader.finish, hpending]
      | false => simp [bind, Except.bind, LambdaReader.finish, hpending]

/-- Names and markers are read as a lambda list exactly if they follow the grammar, and then the
parameters are what the tokens make of them. -/
theorem parse_grammatical (tokens : List String) :
    ((∃ spec, (parse tokens : Except (CauseOf V) (LambdaList N)) = .ok spec) ↔
      LambdaToken.Grammatical tokens) ∧
    ∀ spec, (parse tokens : Except (CauseOf V) (LambdaList N)) = .ok spec →
      spec.Describes tokens := by
  constructor
  · constructor
    · rintro ⟨spec, hparse⟩
      obtain ⟨reader, htake, hpending, -⟩ := parse_eq_ok_iff.mp hparse
      refine ⟨LambdaReader.takeAll_iff.mp ⟨reader, htake⟩, ?_⟩
      rw [← (LambdaReader.takeAll_after htake).pending, hpending]
      simp
    · rintro ⟨hreadable, htaken⟩
      obtain ⟨reader, htake⟩ := (LambdaReader.takeAll_iff (N := N) (V := V)).mpr hreadable
      rw [← (LambdaReader.takeAll_after htake).pending, Bool.not_eq_true] at htaken
      exact ⟨reader.spec, parse_eq_ok_iff.mpr ⟨reader, htake, htaken, rfl⟩⟩
  · intro spec hparse
    obtain ⟨reader, htake, -, rfl⟩ := parse_eq_ok_iff.mp hparse
    exact (LambdaReader.takeAll_after htake).spec

theorem parse_grammatical_all_markers :
    let tokens := ["a", "&lazy", "&Optional", "b", "&PIPE", "&eager", "&KEY", "&ALLOW-other-keys",
      "c", "&REQUIRED", "d"]
    ∃ spec : LambdaList Node, (parse tokens : Except Cause (LambdaList Node)) = .ok spec ∧
      LambdaToken.Grammatical tokens ∧ spec.Describes tokens := by
  intro tokens
  obtain ⟨haccepts, hdescribes⟩ := parse_grammatical (N := Node) (V := Value) tokens
  have hread : (parse tokens : Except Cause (LambdaList Node)).isOk = true := by decide +kernel
  cases hparse : (parse tokens : Except Cause (LambdaList Node)) with
  | error cause =>
      rw [hparse] at hread
      cases hread
  | ok spec => exact ⟨spec, rfl, haccepts.mp ⟨spec, hparse⟩, hdescribes spec hparse⟩

end LambdaList

end LispEngine
