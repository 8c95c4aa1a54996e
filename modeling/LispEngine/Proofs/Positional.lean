import LispEngine.Proofs.Arguments

/-!
# Positional calls

Without keyword parameters, a lambda list consists of four blocks: mandatory parameters, optional
ones, at most one for the rest, and mandatory ones at the end. A call site binds exactly if it has
enough expressions for the mandatory blocks and, without a rest parameter, not too many for all of
them. Then the blocks take the expressions of the site in their order, and leave none.
-/

namespace LispEngine

namespace LambdaList

variable {N : Type} {spec : LambdaList N}

def required (spec : LambdaList N) : Nat :=
  spec.countRole .mandatory + spec.countRole .mandatoryAfterOptional

/-- A lambda list without keyword parameters, cut into blocks by role. -/
structure Blocks (spec : LambdaList N) (head optionals rests tail : List (Parameter N)) : Prop where
  parts : spec.parameters = head ++ (optionals ++ (rests ++ tail))
  head : ∀ p ∈ head, p.role = .mandatory
  optionals : ∀ p ∈ optionals, p.role = .optional
  rests : ∀ p ∈ rests, p.role = .rest
  tail : ∀ p ∈ tail, p.role = .mandatoryAfterOptional

private theorem exists_cut_at_rank {ps : List (Parameter N)}
    (h : ps.Pairwise (·.role.rank ≤ ·.role.rank))
    (bound : Nat) : ∃ low high, ps = low ++ high ∧ (∀ p ∈ low, p.role.rank ≤ bound) ∧
      (∀ p ∈ high, bound < p.role.rank) ∧ high.Pairwise (·.role.rank ≤ ·.role.rank) := by
  induction ps with
  | nil => exact ⟨[], [], by simp⟩
  | cons p ps ih =>
      obtain ⟨hfirst, hrest⟩ := List.pairwise_cons.mp h
      by_cases hp : p.role.rank ≤ bound
      · obtain ⟨low, high, rfl, hlow, hhigh, hpairs⟩ := ih hrest
        refine ⟨p :: low, high, rfl, ?_, hhigh, hpairs⟩
        simpa [hp] using hlow
      · refine ⟨[], p :: ps, rfl, by simp, ?_, h⟩
        intro q hq
        rcases List.mem_cons.mp hq with rfl | hq
        · omega
        · have hle := hfirst q hq
          omega

theorem Orderly.exists_blocks (h : spec.Orderly) (hkeys : spec.hasKeywords = false) :
    ∃ head optionals rests tail, spec.Blocks head optionals rests tail := by
  obtain ⟨head, others, hparts, hhead, hothers, hsorted⟩ := exists_cut_at_rank h.ordered 0
  obtain ⟨optionals, others, rfl, hoptionals, hothers', hsorted⟩ := exists_cut_at_rank hsorted 1
  obtain ⟨rests, tail, rfl, hrests, htail, -⟩ := exists_cut_at_rank hsorted 2
  have hpositional : ∀ p ∈ spec.parameters, p.role.isKeyword = false := by
    simpa [hasKeywords] using hkeys
  refine ⟨head, optionals, rests, tail, hparts, ?_, ?_, ?_, ?_⟩
  · intro p hp
    have hle := hhead p hp
    cases hrole : p.role <;> simp [hrole, Role.rank] at hle ⊢
  · intro p hp
    have hlt := hothers p (by simp [hp])
    have hle := hoptionals p hp
    cases hrole : p.role <;> simp [hrole, Role.rank] at hlt hle ⊢
  · intro p hp
    have hlt := hothers' p (by simp [hp])
    have hle := hrests p hp
    cases hrole : p.role <;> simp [hrole, Role.rank] at hlt hle ⊢
  · intro p hp
    have hlt := htail p hp
    have hkey := hpositional p (by simp [hparts, hp])
    cases hrole : p.role <;> simp [hrole, Role.rank, Role.isKeyword] at hlt hkey ⊢

theorem countP_role {ps : List (Parameter N)} {role : Role} (h : ∀ p ∈ ps, p.role = role)
    (other : Role) : ps.countP (·.role == other) = if role = other then ps.length else 0 := by
  induction ps with
  | nil => simp
  | cons p ps ih =>
      have hp : p.role = role := h p (by simp)
      have hps := ih fun q hq => h q (by simp [hq])
      by_cases hrole : role = other
      · simp [hp, hrole, hps]
      · simp [hp, hrole, hps]

theorem Blocks.countRole_eq {head optionals rests tail : List (Parameter N)}
    (h : spec.Blocks head optionals rests tail) :
    spec.countRole .mandatory = head.length ∧ spec.countRole .optional = optionals.length ∧
      spec.countRole .rest = rests.length ∧
      spec.countRole .mandatoryAfterOptional = tail.length := by
  simp [countRole, h.parts, List.countP_append, countP_role h.head, countP_role h.optionals,
    countP_role h.rests, countP_role h.tail]

end LambdaList

/-! ## Sharing out over blocks -/

/-- Expressions handed to parameters one by one, with nothing for the last ones if they are too few.
-/
def shareOut (nodes : List Node) (count : Nat) : List Bound :=
  (nodes.take count).map .single ++ List.replicate (count - nodes.length) .missing

theorem length_shareOut (nodes : List Node) (count : Nat) :
    (shareOut nodes count).length = count := by
  simp only [shareOut, List.length_append, List.length_map, List.length_take, List.length_replicate]
  omega

theorem shareOut_cons (node : Node) (nodes : List Node) (count : Nat) :
    shareOut (node :: nodes) (count + 1) = .single node :: shareOut nodes count := by
  simp [shareOut]

theorem shareOut_nil (count : Nat) : shareOut [] (count + 1) = .missing :: shareOut [] count := by
  simp [shareOut, List.replicate_succ]

theorem flatMap_shareOut (nodes : List Node) (count : Nat) :
    (shareOut nodes count).flatMap Bound.nodes = nodes.take count := by
  induction count generalizing nodes with
  | zero => simp [shareOut]
  | succ count ih =>
      cases nodes with
      | nil => simpa [shareOut_nil, Bound.nodes] using ih []
      | cons node nodes => simp [shareOut_cons, Bound.nodes, ih]

theorem shareOut_of_le {nodes : List Node} {count : Nat} (h : count ≤ nodes.length) :
    shareOut nodes count = (nodes.take count).map .single := by
  simp [shareOut, Nat.sub_eq_zero_of_le h]

private theorem distribute_leading {ps : List (Parameter Node)}
    (h : ∀ p ∈ ps, p.role.takesLeading = true)
    (others : List (Parameter Node)) (portions : Portions) :
    distribute (ps ++ others) portions = shareOut portions.leading ps.length ++
      distribute others { portions with leading := portions.leading.drop ps.length } := by
  induction ps generalizing portions with
  | nil => simp [shareOut]
  | cons p ps ih =>
      have hps := ih fun q hq => h q (by simp [hq])
      have hp : p.role.takesLeading = true := h p (by simp)
      cases hleading : portions.leading with
      | nil =>
          cases hrole : p.role <;> simp [hrole, Role.takesLeading] at hp <;>
            simp [distribute, hrole, hleading, hps, shareOut_nil]
      | cons node leading =>
          cases hrole : p.role <;> simp [hrole, Role.takesLeading] at hp <;>
            simp [distribute, hrole, hleading, hps, shareOut_cons]

private theorem distribute_trailing {ps : List (Parameter Node)}
    (h : ∀ p ∈ ps, p.role = .mandatoryAfterOptional) (portions : Portions) :
    distribute ps portions = shareOut portions.trailing ps.length := by
  induction ps generalizing portions with
  | nil => simp [shareOut, distribute]
  | cons p ps ih =>
      have hps := ih fun q hq => h q (by simp [hq])
      have hp : p.role = .mandatoryAfterOptional := h p (by simp)
      cases htrailing : portions.trailing with
      | nil => simp [distribute, hp, htrailing, hps, shareOut_nil]
      | cons node trailing => simp [distribute, hp, htrailing, hps, shareOut_cons]

private theorem distribute_rests {ps : List (Parameter Node)} (h : ∀ p ∈ ps, p.role = .rest)
    (others : List (Parameter Node)) (portions : Portions) :
    distribute (ps ++ others) portions =
      List.replicate ps.length (.rest portions.remaining) ++ distribute others portions := by
  induction ps with
  | nil => simp
  | cons p ps ih =>
      have hp : p.role = .rest := h p (by simp)
      simp [distribute, hp, ih fun q hq => h q (by simp [hq]), List.replicate_succ]

theorem LambdaList.Blocks.distribute_eq {spec : LambdaList Node}
    {head optionals rests tail : List (Parameter Node)}
    (h : spec.Blocks head optionals rests tail) (portions : Portions) :
    distribute spec.parameters portions =
      shareOut portions.leading head.length ++
        (shareOut (portions.leading.drop head.length) optionals.length ++
          (List.replicate rests.length (.rest portions.remaining) ++
            shareOut portions.trailing tail.length)) := by
  have hhead : ∀ p ∈ head, p.role.takesLeading = true := by
    intro p hp
    rw [h.head p hp]
    rfl
  have hoptionals : ∀ p ∈ optionals, p.role.takesLeading = true := by
    intro p hp
    rw [h.optionals p hp]
    rfl
  rw [h.parts, distribute_leading hhead, distribute_leading hoptionals, distribute_rests h.rests,
    distribute_trailing h.tail]

private theorem Portions.length_remaining {spec : LambdaList Node} {nodes : List Node}
    (keywords : KeywordArguments) (h : spec.required + spec.countRole .optional ≤ nodes.length) :
    spec.required + spec.countRole .optional +
      (Portions.cut spec nodes keywords).remaining.length = nodes.length := by
  simp only [Portions.cut, LambdaList.required, List.length_drop, List.length_take] at h ⊢
  omega

theorem bindArguments_eq {spec : LambdaList Node} (hspec : spec.Indexed)
    (hkeys : spec.hasKeywords = false) (nodes : List Node) :
    bindArguments spec nodes =
      if nodes.length < spec.required then .error (.tooFewArguments spec.required nodes.length)
      else if spec.hasRest = false ∧ spec.required + spec.countRole .optional < nodes.length then
        .error (.tooManyArguments (spec.required + spec.countRole .optional) nodes.length)
      else .ok ⟨spec, distribute spec.parameters (.cut spec nodes [])⟩ := by
  have hnone : bindKeywords spec (Portions.cut spec nodes []).remaining = .ok [] := by
    simp [bindKeywords, hkeys]
  have hmany : (spec.restIndex?.isNone && !(Portions.cut spec nodes []).remaining.isEmpty) = true ↔
      spec.hasRest = false ∧ spec.required + spec.countRole .optional < nodes.length := by
    rw [hspec.isNone_restIndex?, Bool.and_eq_true, Bool.not_eq_true']
    refine and_congr_right fun _ => ?_
    simp only [Portions.cut, LambdaList.required, Bool.not_eq_true', List.isEmpty_eq_false_iff,
      ne_eq, List.drop_eq_nil_iff, List.length_take]
    omega
  have hcount (h : spec.hasRest = false ∧
    spec.required + spec.countRole .optional < nodes.length) :=
    Portions.length_remaining [] h.2.le
  unfold bindArguments
  unfold LambdaList.required at hmany hcount ⊢
  simp only [Portions.cut] at hnone hmany hcount
  simp only [hnone, hkeys]
  split
  · rfl
  · simp only [bind, Except.bind, Bool.not_false, Bool.and_true, hmany]
    split
    · rename_i hfits
      rw [hcount hfits]
      rfl
    · rfl

/-! ## Calls -/

namespace BoundArguments

def optionals (arguments : BoundArguments) : List Bound :=
  ((arguments.spec.parameters.zip arguments.bound).filter (·.1.role == .optional)).map (·.2)

/-- The expressions of a call site are shared out over positional parameters: no expression is lost,
repeated or moved, every mandatory parameter takes one, and optional parameters go without one from
the last. -/
structure Shares (arguments : BoundArguments) (nodes : List Node) : Prop where
  inOrder : arguments.supplied = nodes
  mandatory : ∀ pair ∈ arguments.spec.parameters.zip arguments.bound,
    pair.1.role = .mandatory ∨ pair.1.role = .mandatoryAfterOptional → ∃ node, pair.2 = .single node
  optional : ∃ given : List Node, arguments.optionals = given.map .single ++
    List.replicate (arguments.spec.countRole .optional - given.length) .missing

end BoundArguments

namespace LambdaList.Blocks

variable {spec : LambdaList Node} {head optionals rests tail : List (Parameter Node)}

theorem mem_zip_role {ps : List (Parameter Node)} {role : Role} (h : ∀ p ∈ ps, p.role = role)
    {bounds : List Bound} {pair : Parameter Node × Bound} (hpair : pair ∈ ps.zip bounds) :
    pair.1.role = role :=
  h pair.1 (List.of_mem_zip hpair).1

theorem zip_eq (h : spec.Blocks head optionals rests tail) {first second third : List Bound}
    (hfirst : first.length = head.length) (hsecond : second.length = optionals.length)
    (hthird : third.length = rests.length) (fourth : List Bound) :
    spec.parameters.zip (first ++ (second ++ (third ++ fourth))) =
      head.zip first ++ (optionals.zip second ++ (rests.zip third ++ tail.zip fourth)) := by
  rw [h.parts, List.zip_append hfirst.symm, List.zip_append hsecond.symm,
    List.zip_append hthird.symm]

private theorem filter_zip_role {ps : List (Parameter Node)} {role : Role}
    (h : ∀ p ∈ ps, p.role = role) (bounds : List Bound) (other : Role) :
    (ps.zip bounds).filter (·.1.role == other) = if role = other then ps.zip bounds else [] := by
  split
  · rename_i hrole
    apply List.filter_eq_self.mpr
    intro pair hpair
    simp [mem_zip_role h hpair, hrole]
  · rename_i hrole
    apply List.filter_eq_nil_iff.mpr
    intro pair hpair
    simp [mem_zip_role h hpair, hrole]

theorem length_cut {nodes : List Node} (hlow : spec.required ≤ nodes.length) :
    (Portions.cut spec nodes []).trailing.length = spec.countRole .mandatoryAfterOptional ∧
      spec.countRole .mandatory ≤ (Portions.cut spec nodes []).leading.length ∧
      (Portions.cut spec nodes []).leading.length ≤
        spec.countRole .mandatory + spec.countRole .optional := by
  simp only [LambdaList.required] at hlow
  simp only [Portions.cut, List.length_drop, List.length_take]
  omega

private theorem supplied_eq_nodes (h : spec.Blocks head optionals rests tail) {nodes : List Node}
    (hlow : spec.required ≤ nodes.length) (hrest : rests.length ≤ 1)
    (hhigh : rests = [] → nodes.length ≤ spec.required + spec.countRole .optional) :
    BoundArguments.supplied ⟨spec, distribute spec.parameters (.cut spec nodes [])⟩ = nodes := by
  obtain ⟨hhead, hoptionals, -, htail⟩ := h.countRole_eq
  obtain ⟨htrailing, -, hleading⟩ := length_cut hlow
  have hremaining : (List.replicate rests.length
      (Bound.rest (Portions.cut spec nodes []).remaining)).flatMap Bound.nodes =
        (Portions.cut spec nodes []).remaining := by
    cases rests with
    | nil =>
        have hfew := hhigh rfl
        simp only [LambdaList.required] at hfew
        simp only [Portions.cut, List.length_nil, List.replicate_zero, List.flatMap_nil]
        symm
        apply List.drop_eq_nil_of_le
        rw [List.length_take]
        omega
    | cons p rests =>
        have hnone : rests = [] := by simpa using hrest
        simp [hnone, Bound.nodes]
  have hsecond : ((Portions.cut spec nodes []).leading.drop head.length).take optionals.length =
      (Portions.cut spec nodes []).leading.drop head.length := by
    apply List.take_of_length_le
    rw [List.length_drop]
    omega
  have hlast : (Portions.cut spec nodes []).trailing.take tail.length =
      (Portions.cut spec nodes []).trailing := by
    apply List.take_of_length_le
    omega
  unfold BoundArguments.supplied
  simp only [h.distribute_eq, List.flatMap_append, flatMap_shareOut, hremaining, hsecond, hlast]
  rw [← List.append_assoc, List.take_append_drop, ← List.append_assoc, Portions.cut_append]

private theorem shares (h : spec.Blocks head optionals rests tail) {nodes : List Node}
    (hlow : spec.required ≤ nodes.length) (hrest : rests.length ≤ 1)
    (hhigh : rests = [] → nodes.length ≤ spec.required + spec.countRole .optional) :
    BoundArguments.Shares ⟨spec, distribute spec.parameters (.cut spec nodes [])⟩ nodes := by
  obtain ⟨hhead, hoptionals, -, htail⟩ := h.countRole_eq
  obtain ⟨htrailing, hleading, -⟩ := length_cut hlow
  have hzip : spec.parameters.zip _ = _ := h.zip_eq
    (length_shareOut (Portions.cut spec nodes []).leading head.length)
    (length_shareOut ((Portions.cut spec nodes []).leading.drop head.length) optionals.length)
    (List.length_replicate (a := .rest (Portions.cut spec nodes []).remaining))
    (shareOut (Portions.cut spec nodes []).trailing tail.length)
  constructor
  · exact h.supplied_eq_nodes hlow hrest hhigh
  · intro pair hpair hrole
    simp only [h.distribute_eq, hzip, List.mem_append] at hpair
    rcases hpair with hpair | hpair | hpair | hpair
    · have hshare := (List.of_mem_zip hpair).2
      rw [shareOut_of_le (by omega)] at hshare
      obtain ⟨node, -, hnode⟩ := List.mem_map.mp hshare
      exact ⟨node, hnode.symm⟩
    · simp [mem_zip_role h.optionals hpair] at hrole
    · simp [mem_zip_role h.rests hpair] at hrole
    · have hshare := (List.of_mem_zip hpair).2
      rw [shareOut_of_le (by omega)] at hshare
      obtain ⟨node, -, hnode⟩ := List.mem_map.mp hshare
      exact ⟨node, hnode.symm⟩
  · refine ⟨((Portions.cut spec nodes []).leading.drop head.length).take optionals.length, ?_⟩
    unfold BoundArguments.optionals
    simp only [h.distribute_eq, hzip, List.filter_append, filter_zip_role h.head,
      filter_zip_role h.optionals, filter_zip_role h.rests, filter_zip_role h.tail, reduceCtorEq,
      if_true, if_false, List.nil_append, List.append_nil]
    rw [List.map_snd_zip (by simp [length_shareOut]), shareOut, hoptionals, List.length_take]
    congr 2
    omega

end LambdaList.Blocks

/-- Without keyword parameters, a call site binds exactly if it has enough expressions for the
mandatory parameters and, unless there is a rest parameter, not too many. Otherwise the failure
tells how many there are, and the bound that they miss. When it binds, the parameters share the
expressions out. -/
theorem bindArguments_positional {spec : LambdaList Node} (hspec : spec.Accepted)
    (hkeys : spec.hasKeywords = false) (nodes : List Node) :
    ((∃ arguments, bindArguments spec nodes = .ok arguments) ↔
      spec.required ≤ nodes.length ∧
        (spec.hasRest = true ∨ nodes.length ≤ spec.required + spec.countRole .optional)) ∧
    (∀ cause, bindArguments spec nodes = .error cause → cause.kind = .arity ∧
      (nodes.length < spec.required ∧ cause = .tooFewArguments spec.required nodes.length ∨
        spec.required + spec.countRole .optional < nodes.length ∧
          cause = .tooManyArguments (spec.required + spec.countRole .optional) nodes.length)) ∧
    ∀ arguments, bindArguments spec nodes = .ok arguments →
      arguments.spec = spec ∧ arguments.bound.length = spec.size ∧ arguments.Shares nodes := by
  obtain ⟨head, optionals, rests, tail, hblocks⟩ := hspec.orderly.exists_blocks hkeys
  have hcount := hspec.orderly.countRole_rest
  rw [hblocks.countRole_eq.2.2.1] at hcount
  rw [bindArguments_eq hspec.orderly.indexed hkeys]
  split
  · rename_i hfew
    refine ⟨by simp; omega, ?_, by simp⟩
    intro cause hcause
    cases hcause
    exact ⟨rfl, .inl ⟨hfew, rfl⟩⟩
  split
  · rename_i hmany
    refine ⟨by simp [hmany.1]; omega, ?_, by simp⟩
    intro cause hcause
    cases hcause
    exact ⟨rfl, .inr ⟨hmany.2, rfl⟩⟩
  · rename_i henough hfits
    have hlow : spec.required ≤ nodes.length := by omega
    have hhigh : spec.hasRest = true ∨ nodes.length ≤ spec.required + spec.countRole .optional := by
      cases hrest : spec.hasRest with
      | true => exact .inl rfl
      | false =>
          simp only [hrest, true_and] at hfits
          omega
    refine ⟨by simp [hlow, hhigh], by simp, ?_⟩
    intro arguments harguments
    cases harguments
    refine ⟨rfl, length_distribute _ _, hblocks.shares hlow ?_ ?_⟩
    · rw [hcount]
      split <;> omega
    · intro hnone
      have hrest : spec.hasRest = false := by
        cases hrest : spec.hasRest with
        | false => rfl
        | true => simp [hrest, hnone] at hcount
      simpa [hrest] using hhigh

/-- Three expressions for two mandatory and two optional parameters: the second optional parameter
goes without one. Five expressions are too many. -/
theorem bindArguments_positional_missing_optional :
    let x : Node := .ofValue (.int 0) none
    let y : Node := .ofValue (.list []) none
    let spec : LambdaList Node := .ofList [⟨"A", .mandatory, none, none, false, false, false⟩,
      ⟨"B", .optional, none, none, false, false, false⟩,
      ⟨"C", .optional, none, none, false, false, false⟩,
      ⟨"Z", .mandatoryAfterOptional, none, none, false, false, false⟩]
    (LambdaList.ofTokens [.name "A", .marker "&OPTIONAL", .name "B", .name "C", .marker "&REQUIRED",
      .name "Z"] : Except Cause (LambdaList Node)) = .ok spec ∧
    spec.hasKeywords = false ∧
    (∃ arguments, bindArguments spec [x, y, x] = .ok arguments ∧ arguments.supplied = [x, y, x]) ∧
    ¬ ∃ arguments, bindArguments spec [x, y, x, y, x] = .ok arguments := by
  intro x y spec
  have hoptional : Marker.ofText? "&OPTIONAL" = some .optional := by decide +kernel
  have hrequired : Marker.ofText? "&REQUIRED" = some .required := by decide +kernel
  have hread : (LambdaList.ofTokens [.name "A", .marker "&OPTIONAL", .name "B", .name "C",
      .marker "&REQUIRED", .name "Z"] : Except Cause (LambdaList Node)) = .ok spec := by
    simp only [LambdaList.ofTokens, LambdaReader.takeAll, LambdaReader.take,
      LambdaReader.takeMarker, hoptional, hrequired]
    rfl
  obtain ⟨hbinds, -, hshares⟩ := bindArguments_positional (.read hread) rfl [x, y, x]
  obtain ⟨htoo, -, -⟩ := bindArguments_positional (.read hread) rfl [x, y, x, y, x]
  obtain ⟨arguments, hbind⟩ := hbinds.mpr (by decide +kernel)
  refine ⟨hread, rfl, ⟨arguments, hbind, (hshares arguments hbind).2.2.inOrder⟩, ?_⟩
  rw [htoo]
  decide +kernel

end LispEngine
