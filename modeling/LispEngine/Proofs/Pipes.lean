import LispEngine.Compiler.Basic
import LispEngine.Proofs.Keywords

/-!
# Piped values and the parameters marked for them

A step of a pipeline puts the piped value at a place that depends on the index of the marked
parameter and on the number of the other arguments. Binding counts from both ends: a parameter in
front takes the argument at its own index, a mandatory one at the end takes the argument as far from
the last. The two agree for every mandatory parameter in front, for an optional one when it is given
at all, and for one at the end only if no parameter is left out or it is the last one. Behind a rest
or keyword parameter the piped value always comes first, so that one at the end gets it only if the
parameters from it on take all arguments.
-/

namespace LispEngine

/-! ## Parameters around a parameter -/

namespace LambdaList.Orderly

variable {spec : LambdaList Node} {before after : List (Parameter Node)} {p : Parameter Node}

theorem rank_before (h : spec.Orderly) (hparts : spec.parameters = before ++ p :: after) :
    ∀ q ∈ before, q.role.rank ≤ p.role.rank := by
  intro q hq
  have hordered := h.ordered
  rw [hparts, List.pairwise_append] at hordered
  exact hordered.2.2 q hq p (by simp)

private theorem rank_after (h : spec.Orderly) (hparts : spec.parameters = before ++ p :: after) :
    ∀ q ∈ after, p.role.rank ≤ q.role.rank := by
  intro q hq
  have hordered := h.ordered
  rw [hparts, List.pairwise_append, List.pairwise_cons] at hordered
  exact hordered.2.1.1 q hq

theorem leading_before (h : spec.Orderly) (hparts : spec.parameters = before ++ p :: after)
    (hp : p.role.takesLeading = true) : ∀ q ∈ before, q.role.takesLeading = true := by
  intro q hq
  have hrank := h.rank_before hparts q hq
  cases hrole : p.role <;> simp only [hrole, Role.takesLeading, reduceCtorEq] at hp <;>
    cases hqrole : q.role <;> simp [hrole, hqrole, Role.rank, Role.takesLeading] at hrank ⊢

theorem trailing_after (h : spec.Orderly) (hparts : spec.parameters = before ++ p :: after)
    (hp : p.role = .mandatoryAfterOptional) : ∀ q ∈ after, q.role = .mandatoryAfterOptional := by
  intro q hq
  have hrank := h.rank_after hparts q hq
  cases hqrole : q.role <;> simp [hp, hqrole, Role.rank] at hrank ⊢

private theorem mandatory_before (h : spec.Orderly)
    (hparts : spec.parameters = before ++ p :: after)
    (hp : p.role = .mandatory) : ∀ q ∈ before, q.role = .mandatory := by
  intro q hq
  have hrank := h.rank_before hparts q hq
  cases hqrole : q.role <;> simp [hp, hqrole, Role.rank] at hrank ⊢

private theorem leading_lt (h : spec.Orderly) (hparts : spec.parameters = before ++ p :: after)
    (hp : p.role.takesLeading = true) :
    before.length < spec.countRole .mandatory + spec.countRole .optional := by
  have hcount := countP_takesLeading spec.parameters
  have hbefore := List.countP_eq_length.mpr (h.leading_before hparts hp)
  rw [hparts, List.countP_append, List.countP_cons, hbefore, if_pos hp] at hcount
  simp only [countRole, hparts]
  omega

theorem mandatory_lt (h : spec.Orderly) (hparts : spec.parameters = before ++ p :: after)
    (hp : p.role = .mandatory) : before.length < spec.countRole .mandatory := by
  rw [countRole, hparts, List.countP_append, List.countP_cons,
    countP_role (h.mandatory_before hparts hp)]
  simp [hp]

private theorem countRole_trailing (h : spec.Orderly)
    (hparts : spec.parameters = before ++ p :: after) (hp : p.role = .mandatoryAfterOptional) :
    spec.countRole .mandatoryAfterOptional =
      before.countP (·.role == .mandatoryAfterOptional) + (after.length + 1) := by
  rw [countRole, hparts, List.countP_append, List.countP_cons,
    countP_role (h.trailing_after hparts hp)]
  simp [hp]

end LambdaList.Orderly

/-! ## Arguments of positional parameters -/

section

variable {spec : LambdaList Node} {before after : List (Parameter Node)} {p : Parameter Node}
  {nodes : List Node} {arguments : BoundArguments}

theorem getElem?_bound_leading (hspec : spec.Orderly)
    (hparts : spec.parameters = before ++ p :: after) (hp : p.role.takesLeading = true)
    (h : bindArguments spec nodes = .ok arguments) :
    arguments.bound[before.length]? = some (.ofNode?
      (nodes.take (nodes.length - spec.countRole .mandatoryAfterOptional))[before.length]?) := by
  obtain ⟨keywords, -, -, rfl⟩ := bindArguments_eq_ok h
  have hlt := hspec.leading_lt hparts hp
  have hcount := List.countP_eq_length.mpr (hspec.leading_before hparts hp)
  have htaken := List.getElem?_take_of_lt (l := nodes.take
    (nodes.length - spec.countRole .mandatoryAfterOptional)) hlt
  rw [getElem?_distribute, hparts]
  simp [Portions.share, hp, hcount, Portions.cut, htaken]

/-- A mandatory parameter at the end takes the argument that is as far from the last one as the
parameter is from the last parameter. -/
theorem getElem?_bound_trailing (hspec : spec.Orderly)
    (hparts : spec.parameters = before ++ p :: after) (hp : p.role = .mandatoryAfterOptional)
    (h : bindArguments spec nodes = .ok arguments) :
    after.length < nodes.length ∧ arguments.bound[before.length]? =
      some (.ofNode? nodes[nodes.length - (after.length + 1)]?) := by
  obtain ⟨keywords, -, henough, rfl⟩ := bindArguments_eq_ok h
  have hcount := hspec.countRole_trailing hparts hp
  have hplace : nodes.length - spec.countRole .mandatoryAfterOptional +
      before.countP (·.role == .mandatoryAfterOptional) = nodes.length - (after.length + 1) := by
    omega
  refine ⟨by omega, ?_⟩
  rw [getElem?_distribute, hparts]
  simp [Portions.share, hp, Role.takesLeading, Portions.cut, hplace]

theorem length_le_size (hspec : spec.Orderly)
    (hall : ∀ q ∈ spec.parameters, q.role.isPositional = true)
    (h : bindArguments spec nodes = .ok arguments) : nodes.length ≤ spec.size := by
  have hkeys : spec.hasKeywords = false := by
    simp only [LambdaList.hasKeywords, List.any_eq_false]
    intro q hq
    have hrole := hall q hq
    cases hq : q.role <;> simp [hq, Role.isPositional, Role.isKeyword] at hrole ⊢
  have hrest : spec.hasRest = false := by
    rw [← Bool.not_eq_true, hspec.indexed.rest]
    rintro ⟨q, hq, hrest⟩
    have hrole := hall q hq
    simp [hrest, Role.isPositional] at hrole
  obtain ⟨head, optionals, rests, tail, hblocks⟩ := hspec.exists_blocks hkeys
  obtain ⟨hhead, hoptionals, -, htail⟩ := hblocks.countRole_eq
  have hsize : head.length + optionals.length + tail.length ≤ spec.size := by
    rw [LambdaList.size, hblocks.parts]
    simp only [List.length_append]
    omega
  rw [bindArguments_eq hspec.indexed hkeys] at h
  split at h
  · cases h
  split at h
  · cases h
  · rename_i hfew hmany
    simp only [hrest, true_and, LambdaList.required] at hfew hmany
    omega

end

/-! ## Steps -/

/-- A step calls a function by name: the form that names it, and the arguments beside the piped
value. -/
inductive Form.CallsByName (name : String) : Form → Form → List Form → Prop where
  | symbol {position : Position} {problem : Option String} :
      CallsByName name (.leaf (.symbol name) position problem)
        (.leaf (.symbol name) position problem) []
  | call {head : Form} {forms : List Form} {position : Position} {problem : Option String} :
      head.symbol? = some name → CallsByName name (.list (head :: forms) false position problem)
        head forms

theorem pipeStep_eq (defs : Definitions) {name : String} {step head : Form} {forms : List Form}
    (h : step.CallsByName name head forms) :
    pipeStep defs step = .ok (.ofItems (head ::
      (forms.take (pipePosition defs name forms.length) ++
        .ofSymbol pipeVariable step.position ::
          forms.drop (pipePosition defs name forms.length))) step.position) := by
  cases h with
  | symbol => simp [pipeStep, Form.position]
  | call hname => simp [pipeStep, Form.position, hname]

namespace LambdaList

def pipePlace (spec : LambdaList Node) (index count : Nat) : Nat :=
  if (spec.parameters.take index).all (·.role.isPositional) then min index count else 0

/-- With `count` other arguments, a value piped to the parameter at an index arrives there. -/
def PipeArrives (spec : LambdaList Node) (index count : Nat) : Role → Prop
  | .optional => index + spec.countRole .mandatoryAfterOptional ≤ count
  | .mandatoryAfterOptional =>
      if (spec.parameters.take index).all (·.role.isPositional) then
        count + 1 = spec.size ∨ index + 1 = spec.size
      else count + 1 + index = spec.size
  | _ => True

end LambdaList

theorem pipePosition_eq {defs : Definitions} {name : String} {spec : LambdaList Node} {index : Nat}
    (hspec : defs.functionSpec? name = some spec) (hpipe : spec.pipeIndex? = some index)
    (count : Nat) : pipePosition defs name count = spec.pipePlace index count := by
  simp [pipePosition, hspec, hpipe, LambdaList.pipePlace]

theorem functionSpec?_addNative (defs : Definitions) (name : String) (spec : LambdaList Node)
    (doc : String) (code : NativeCode) :
    (defs.addNative name spec doc code).functionSpec? name = some spec := by
  simp [Definitions.functionSpec?, Definitions.addNative, Definitions.addFunction,
    Definitions.entry?, Definitions.install, Definitions.function?, Bindings.find?_insert,
    Callable.spec]

section

variable {spec : LambdaList Node} {before after : List (Parameter Node)} {p : Parameter Node}
  {front back : List Node} {piped : Node} {arguments : BoundArguments}

private theorem pipePlace_leading (hspec : spec.Orderly)
    (hparts : spec.parameters = before ++ p :: after)
    (hp : p.role.takesLeading = true) (count : Nat) :
    spec.pipePlace before.length count = min before.length count := by
  have hall : (spec.parameters.take before.length).all (·.role.isPositional) = true := by
    rw [hparts, List.take_left, List.all_eq_true]
    intro q hq
    have hrole := hspec.leading_before hparts hp q hq
    cases hq : q.role <;> simp [hq, Role.takesLeading, Role.isPositional] at hrole ⊢
  rw [LambdaList.pipePlace, if_pos hall]

private theorem arrives_leading (hspec : spec.Orderly)
    (hparts : spec.parameters = before ++ p :: after) (hp : p.role.takesLeading = true)
    (hplace : front.length = spec.pipePlace before.length (front.length + back.length))
    (h : bindArguments spec (front ++ piped :: back) = .ok arguments) :
    arguments.bound[before.length]? = some (if before.length +
      spec.countRole .mandatoryAfterOptional ≤ front.length + back.length then .single piped
      else .missing) := by
  rw [pipePlace_leading hspec hparts hp] at hplace
  rw [getElem?_bound_leading hspec hparts hp h]
  have hlength : (front ++ piped :: back).length = front.length + back.length + 1 := by
    simp [Nat.add_assoc]
  split
  · rename_i hfits
    have hfront : front.length = before.length := by omega
    rw [List.getElem?_take_of_lt (by omega), ← hfront]
    simp [Bound.ofNode?]
  · rename_i hfew
    rw [List.getElem?_take_eq_none (by omega)]
    rfl

private theorem arrives_trailing (hspec : spec.Orderly)
    (hparts : spec.parameters = before ++ p :: after) (hp : p.role = .mandatoryAfterOptional)
    (hplace : front.length = spec.pipePlace before.length (front.length + back.length))
    (h : bindArguments spec (front ++ piped :: back) = .ok arguments) :
    spec.PipeArrives before.length (front.length + back.length) p.role ↔
      (front ++ piped :: back).length - (after.length + 1) = front.length := by
  obtain ⟨henough, -⟩ := getElem?_bound_trailing hspec hparts hp h
  have hsize : spec.size = before.length + (after.length + 1) := by
    simp [LambdaList.size, hparts]
  have hlength : (front ++ piped :: back).length = front.length + back.length + 1 := by
    simp [Nat.add_assoc]
  simp only [hp, LambdaList.PipeArrives]
  rw [LambdaList.pipePlace] at hplace
  split
  · rename_i hall
    have hpositional : ∀ q ∈ spec.parameters, q.role.isPositional = true := by
      intro q hq
      rw [hparts, List.mem_append, List.mem_cons] at hq
      rw [hparts, List.take_left, List.all_eq_true] at hall
      rcases hq with hq | rfl | hq
      · exact hall q hq
      · simp [hp, Role.isPositional]
      · simp [hspec.trailing_after hparts hp q hq, Role.isPositional]
    have hle := length_le_size hspec hpositional h
    rw [if_pos hall] at hplace
    omega
  · rename_i hnot
    rw [if_neg hnot] at hplace
    omega

private theorem ofNode?_elsewhere {place : Nat} (h : place ≠ front.length) :
    Bound.ofNode? (front ++ piped :: back)[place]? = .missing ∨
      ∃ node ∈ front ++ back, Bound.ofNode? (front ++ piped :: back)[place]? = .single node := by
  cases hnode : (front ++ piped :: back)[place]? with
  | none => exact .inl rfl
  | some node =>
      refine .inr ⟨node, ?_, rfl⟩
      rw [List.getElem?_append] at hnode
      split at hnode
      · exact List.mem_append_left back (List.mem_of_getElem? hnode)
      · obtain ⟨more, hmore⟩ : ∃ more, place - front.length = more + 1 :=
          ⟨place - front.length - 1, by omega⟩
        rw [hmore, List.getElem?_cons_succ] at hnode
        exact List.mem_append_right front (List.mem_of_getElem? hnode)

end

/-- A step that calls a function by name, for every function that marks a positional parameter, is
rewritten to the call with the piped value among the other arguments. When this call binds, the
marked parameter is bound to the piped value if its place is the right one, and else to another
argument or to none. -/
theorem pipeStep_arrives_iff {defs : Definitions} {name : String} {spec : LambdaList Node}
    {index : Nat} {p : Parameter Node} {step head : Form} {forms : List Form}
    (hname : defs.functionSpec? name = some spec) (hspec : spec.Accepted)
    (hpipe : spec.pipeIndex? = some index) (hp : spec.parameters[index]? = some p)
    (hrole : p.role.isPositional = true) (hstep : step.CallsByName name head forms) :
    let place := pipePosition defs name forms.length
    pipeStep defs step = .ok (.ofItems (head :: (forms.take place ++
      .ofSymbol pipeVariable step.position :: forms.drop place)) step.position) ∧
    ∀ (front back : List Node) (piped : Node) (arguments : BoundArguments),
      front.length = place → front.length + back.length = forms.length →
      bindArguments spec (front ++ piped :: back) = .ok arguments →
      (spec.PipeArrives index forms.length p.role →
        arguments.bound[index]? = some (.single piped)) ∧
      (¬spec.PipeArrives index forms.length p.role →
        arguments.bound[index]? = some .missing ∨
          ∃ node ∈ front ++ back, arguments.bound[index]? = some (.single node)) := by
  refine ⟨pipeStep_eq defs hstep, ?_⟩
  intro front back piped arguments hplace hforms hbind
  rw [pipePosition_eq hname hpipe, ← hforms] at hplace
  have hparts := (eq_take_cons_drop hp).symm
  have hindex : (spec.parameters.take index).length = index := by
    obtain ⟨hlt, -⟩ := List.getElem?_eq_some_iff.mp hp
    rw [List.length_take]
    omega
  rw [← hindex] at hplace
  cases hp : p.role with
  | mandatory =>
      have hleading := arrives_leading hspec.orderly hparts (by simp [hp, Role.takesLeading]) hplace
        hbind
      obtain ⟨_, -, henough, -⟩ := bindArguments_eq_ok hbind
      have hlt := hspec.orderly.mandatory_lt hparts hp
      simp only [List.length_append, List.length_cons] at henough
      rw [if_pos (by omega), hindex] at hleading
      simp [LambdaList.PipeArrives, hleading]
  | optional =>
      have hleading := arrives_leading hspec.orderly hparts (by simp [hp, Role.takesLeading]) hplace
        hbind
      rw [hindex, hforms] at hleading
      simp only [LambdaList.PipeArrives, hleading]
      constructor
      · intro hfits
        rw [if_pos hfits]
      · intro hfew
        rw [if_neg hfew]
        exact .inl rfl
  | mandatoryAfterOptional =>
      have harrives := arrives_trailing hspec.orderly hparts hp hplace hbind
      obtain ⟨-, hbound⟩ := getElem?_bound_trailing hspec.orderly hparts hp hbind
      rw [hindex, hforms, hp] at harrives
      rw [hindex] at hbound
      rw [harrives, hbound]
      constructor
      · intro hseat
        rw [hseat]
        simp [Bound.ofNode?]
      · intro hseat
        simp only [Option.some.injEq]
        exact ofNode?_elsewhere hseat
  | rest | keyword | restThenKeyword => simp [hp, Role.isPositional] at hrole

def LambdaList.markedBehindOptional : LambdaList Node :=
  .ofList [⟨"A", .optional, none, none, false, false, false⟩,
    ⟨"B", .mandatoryAfterOptional, none, none, false, false, true⟩,
    ⟨"C", .mandatoryAfterOptional, none, none, false, false, false⟩]

theorem LambdaList.markedBehindOptional_accepted : markedBehindOptional.Accepted := by
  have hoptional : Marker.ofText? "&OPTIONAL" = some .optional := by decide +kernel
  have hrequired : Marker.ofText? "&REQUIRED" = some .required := by decide +kernel
  have hpipe : Marker.ofText? "&PIPE" = some .pipe := by decide +kernel
  have hread : (LambdaList.ofTokens [.marker "&OPTIONAL", .name "A", .marker "&REQUIRED",
      .marker "&PIPE", .name "B", .name "C"] : Except Cause (LambdaList Node)) =
        .ok markedBehindOptional := by
    simp only [LambdaList.ofTokens, LambdaReader.takeAll, LambdaReader.take,
      LambdaReader.takeMarker, hoptional, hrequired, hpipe]
    rfl
  exact .read hread

/-- With arguments for all parameters, the piped value arrives at the marked one. -/
theorem pipeStep_arrives_iff_all_given :
    let spec := LambdaList.markedBehindOptional
    let defs := Definitions.empty.addNative "F" spec "" (.primitive .list)
    let one : Form := .leaf (.int 1) .start none
    let step : Form := .ofItems [.ofSymbol "F" .start, one, one] .start
    let x : Node := .ofValue (.int 0) none
    let y : Node := .ofValue (.int 1) none
    spec.Accepted ∧ defs.functionSpec? "F" = some spec ∧ spec.pipeIndex? = some 1 ∧
    pipeStep defs step = .ok (.ofItems [.ofSymbol "F" .start, one,
      .ofSymbol pipeVariable .start, one] .start) ∧
    ∃ arguments, bindArguments spec [x, y, x] = .ok arguments ∧
      arguments.bound[1]? = some (.single y) := by
  intro spec defs one step x y
  have hspec : spec.Accepted := LambdaList.markedBehindOptional_accepted
  have hname : defs.functionSpec? "F" = some spec := functionSpec?_addNative ..
  have hplace : pipePosition defs "F" 2 = 1 := pipePosition_eq hname rfl 2
  obtain ⟨hcall, harrives⟩ := pipeStep_arrives_iff hname hspec rfl rfl rfl
    (.call rfl : step.CallsByName "F" (.ofSymbol "F" .start) [one, one])
  simp only [List.length_cons, List.length_nil, hplace] at hcall harrives
  exact ⟨hspec, hname, rfl, hcall, _, rfl, (harrives [x] [x] y _ rfl rfl rfl).1 (.inl rfl)⟩

/-- Without an argument for the optional parameter, the marked one takes the other argument and the
piped value goes to the last. -/
theorem pipeStep_misses_parameter :
    let spec := LambdaList.markedBehindOptional
    let defs := Definitions.empty.addNative "F" spec "" (.primitive .list)
    let one : Form := .leaf (.int 1) .start none
    let step : Form := .ofItems [.ofSymbol "F" .start, one] .start
    let x : Node := .ofValue (.int 0) none
    let y : Node := .ofValue (.int 1) none
    spec.Accepted ∧ defs.functionSpec? "F" = some spec ∧ spec.pipeIndex? = some 1 ∧
    pipeStep defs step = .ok (.ofItems [.ofSymbol "F" .start, one,
      .ofSymbol pipeVariable .start] .start) ∧
    ∃ arguments, bindArguments spec [x, y] = .ok arguments ∧
      arguments.bound = [.missing, .single x, .single y] := by
  intro spec defs one step x y
  have hname : defs.functionSpec? "F" = some spec := functionSpec?_addNative ..
  have hplace : pipePosition defs "F" 1 = 1 := pipePosition_eq hname rfl 1
  have hcall := pipeStep_eq defs (.call rfl : step.CallsByName "F" (.ofSymbol "F" .start) [one])
  simp only [List.length_cons, List.length_nil, hplace] at hcall
  exact ⟨LambdaList.markedBehindOptional_accepted, hname, rfl, hcall, _, rfl, rfl⟩

end LispEngine
