import Mathlib.Algebra.Order.Group.Multiset
import Mathlib.Data.List.Perm.Subperm
import Mathlib.Tactic.Abel
import LispEngine.Proofs.LambdaLists
import LispEngine.Proofs.Returns

/-!
# How often arguments are evaluated

Building a call evaluates the expressions that the call site supplies, parameter by parameter.
Positional parameters share them out. The rest parameter takes all that remains, and the keyword
parameters take from the same remainder: with both sorts of parameters, what is given for a keyword
is evaluated twice.
-/

namespace LispEngine

/-! ## Keywords -/

/-- What is given for keywords: each of them is a parameter, none is given twice, and the
expressions stand among those read. -/
structure KeywordArguments.Read (spec : LambdaList Node) (nodes : List Node)
    (given : KeywordArguments) : Prop where
  distinct : (given.map (·.1)).Nodup
  declared : ∀ pair ∈ given, ∃ p ∈ spec.parameters, p.name = pair.1 ∧ p.role.isKeyword = true
  fromSite : (given.map (·.2)).Sublist nodes

theorem LambdaList.Indexed.keyword_of_index {spec : LambdaList Node} (hspec : spec.Indexed)
    {name : String} {index : Nat} (h : spec.keywordIndex? name = some index) :
    ∃ p ∈ spec.parameters, p.name = name ∧ p.role.isKeyword = true := by
  obtain ⟨hindex, hkeyword⟩ := Option.filter_eq_some_iff.mp h
  obtain ⟨p, hp, hname⟩ := (hspec.name name index).mp hindex
  exact ⟨p, List.mem_of_getElem? hp, hname, by simpa [hp] using hkeyword⟩

private theorem not_mem_of_lookup_eq_none {α : Type} {pairs : List (String × α)} {name : String}
    (h : (pairs.lookup name).isSome = false) : name ∉ pairs.map (·.1) := by
  intro hmem
  obtain ⟨pair, hpair, rfl⟩ := List.mem_map.mp hmem
  have hnone : pairs.lookup pair.1 = none := by simpa using h
  exact absurd (List.lookup_eq_none_iff.mp hnone pair hpair) (by simp)

private theorem readKeywords_read {spec : LambdaList Node} (hspec : spec.Indexed)
    {front nodes : List Node} {given keywords : KeywordArguments} (h : given.Read spec front)
    (hread : readKeywords spec nodes given = .ok keywords) :
    keywords.Read spec (front ++ nodes) := by
  fun_induction readKeywords spec nodes given generalizing front with
  | case1 => cases hread
  | case2 => cases hread
  | case3 key node rest given name _ index hindex hfresh ih =>
      have hnext : KeywordArguments.Read spec (front ++ [key, node]) (given ++ [(name, node)]) := by
        constructor
        · have hname : name ∉ given.map (·.1) :=
            not_mem_of_lookup_eq_none (Bool.eq_false_iff.mpr hfresh)
          rw [List.map_append]
          exact List.Nodup.append h.distinct (by simp) (by simpa using hname)
        · intro pair hpair
          rcases List.mem_append.mp hpair with hold | hnew
          · exact h.declared pair hold
          · rw [List.mem_singleton.mp hnew]
            exact hspec.keyword_of_index hindex
        · rw [List.map_append]
          exact h.fromSite.append (by simp)
      simpa using ih hnext hread
  | case4 key node rest given name _ _ _ ih =>
      have hnext : KeywordArguments.Read spec (front ++ [key, node]) given :=
        { h with fromSite := h.fromSite.trans (List.sublist_append_left front [key, node]) }
      simpa using ih hnext hread
  | case5 => cases hread
  | case6 nodes given =>
      cases hread
      exact { h with fromSite := h.fromSite.trans (List.sublist_append_left front nodes) }

theorem bindKeywords_read {spec : LambdaList Node} (hspec : spec.Indexed) {nodes : List Node}
    {keywords : KeywordArguments} (h : bindKeywords spec nodes = .ok keywords) :
    keywords.Read spec nodes := by
  have hempty : KeywordArguments.Read spec [] [] := ⟨by simp, by simp, by simp⟩
  unfold bindKeywords at h
  split at h
  · cases h
    exact { hempty with fromSite := by simp }
  split at h
  · cases h
  · simpa using readKeywords_read hspec hempty h

theorem lookups_perm {names : List String} {given : KeywordArguments} (hnames : names.Nodup)
    (hgiven : (given.map (·.1)).Nodup) (hdeclared : ∀ pair ∈ given, pair.1 ∈ names) :
    (names.filterMap (given.lookup ·)).Perm (given.map (·.2)) := by
  induction given generalizing names with
  | nil => simp
  | cons pair given ih =>
      obtain ⟨name, node⟩ := pair
      have hname : name ∈ names := hdeclared (name, node) (by simp)
      obtain ⟨hfresh, hdistinct⟩ := List.nodup_cons.mp hgiven
      have hrest : (names.erase name).filterMap (((name, node) :: given).lookup ·) =
          (names.erase name).filterMap (given.lookup ·) := by
        apply List.filterMap_congr
        intro other hother
        have hne : other ≠ name := (hnames.mem_erase_iff.mp hother).1
        rw [List.lookup_cons, beq_false_of_ne hne]
      have hall : ∀ pair ∈ given, pair.1 ∈ names.erase name := by
        intro pair hpair
        refine hnames.mem_erase_iff.mpr ⟨?_, hdeclared pair (by simp [hpair])⟩
        intro hsame
        exact hfresh (List.mem_map.mpr ⟨pair, hpair, hsame⟩)
      have hsplit := (List.perm_cons_erase hname).filterMap (((name, node) :: given).lookup ·)
      refine hsplit.trans ?_
      rw [List.filterMap_cons]
      simp only [List.lookup_cons_self, hrest]
      exact (ih (hnames.erase name) hdistinct hall).cons node

/-! ## Sharing out -/

def Role.takesLeading : Role → Bool
  | mandatory | optional => true
  | _ => false

def keywordLookups (ps : List (Parameter Node)) (keywords : KeywordArguments) : List Node :=
  (ps.filter (·.role.isKeyword)).filterMap (keywords.lookup ·.name)

private theorem keywordLookups_cons_positional {p : Parameter Node} (ps : List (Parameter Node))
    (keywords : KeywordArguments) (h : p.role.isKeyword = false) :
    keywordLookups (p :: ps) keywords = keywordLookups ps keywords := by
  simp [keywordLookups, h]

theorem keywordLookups_cons {p : Parameter Node} (ps : List (Parameter Node))
    (keywords : KeywordArguments) (h : p.role.isKeyword = true) :
    keywordLookups (p :: ps) keywords =
      (keywords.lookup p.name).toList ++ keywordLookups ps keywords := by
  cases hlookup : keywords.lookup p.name with
  | none => simp [keywordLookups, h, hlookup]
  | some node => simp [keywordLookups, h, hlookup]

private theorem coe_cons_eq (node : Node) (nodes : List Node) :
    ((node :: nodes : List Node) : Multiset Node) = ([node] : List Node) + nodes :=
  (Multiset.coe_add [node] nodes).symm

theorem distribute_supplies (ps : List (Parameter Node)) (portions : Portions)
    (hleading : portions.leading.length ≤ ps.countP (·.role.takesLeading))
    (htrailing : portions.trailing.length ≤ ps.countP (·.role == .mandatoryAfterOptional)) :
    (((distribute ps portions).flatMap Bound.nodes : List Node) : Multiset Node) =
      portions.leading + portions.trailing + ps.countP (·.role == .rest) • ↑portions.remaining +
        keywordLookups ps portions.keywords := by
  fun_induction distribute ps portions with
  | case1 portions =>
      have hleading : portions.leading = [] := by simpa using hleading
      have htrailing : portions.trailing = [] := by simpa using htrailing
      simp [hleading, htrailing, keywordLookups]
  | case2 p ps portions hrole node leading heq ih | case4 p ps portions hrole node leading heq ih =>
      have htakes : p.role.takesLeading = true := by rw [hrole]; rfl
      have hpositional : p.role.isKeyword = false := by rw [hrole]; rfl
      have hrest : (p :: ps).countP (·.role == .rest) = ps.countP (·.role == .rest) := by
        simp [hrole]
      rw [List.flatMap_cons, ← Multiset.coe_add,
        ih (by simpa [htakes, heq] using hleading) (by simpa [hrole] using htrailing), hrest,
        keywordLookups_cons_positional ps _ hpositional, heq, coe_cons_eq]
      simp only [Bound.nodes]
      abel
  | case3 p ps portions hrole heq ih | case5 p ps portions hrole heq ih =>
      have hpositional : p.role.isKeyword = false := by rw [hrole]; rfl
      rw [List.flatMap_cons, ← Multiset.coe_add,
        ih (by simp [heq]) (by simpa [hrole] using htrailing),
        keywordLookups_cons_positional ps _ hpositional]
      simp [Bound.nodes, hrole]
  | case6 p ps portions hrole node trailing heq ih =>
      have hother : p.role.takesLeading = false := by rw [hrole]; rfl
      have hpositional : p.role.isKeyword = false := by rw [hrole]; rfl
      have hrest : (p :: ps).countP (·.role == .rest) = ps.countP (·.role == .rest) := by
        simp [hrole]
      rw [List.flatMap_cons, ← Multiset.coe_add,
        ih (by simpa [hother] using hleading) (by simpa [hrole, heq] using htrailing), hrest,
        keywordLookups_cons_positional ps _ hpositional, heq, coe_cons_eq]
      simp only [Bound.nodes]
      abel
  | case7 p ps portions hrole heq ih =>
      have hother : p.role.takesLeading = false := by rw [hrole]; rfl
      have hpositional : p.role.isKeyword = false := by rw [hrole]; rfl
      rw [List.flatMap_cons, ← Multiset.coe_add,
        ih (by simpa [hother] using hleading) (by simp [heq]),
        keywordLookups_cons_positional ps _ hpositional]
      simp [Bound.nodes, hrole]
  | case8 p ps portions hrole ih =>
      have hother : p.role.takesLeading = false := by rw [hrole]; rfl
      have hpositional : p.role.isKeyword = false := by rw [hrole]; rfl
      have hrest : (p :: ps).countP (·.role == .rest) = ps.countP (·.role == .rest) + 1 := by
        simp [hrole]
      rw [List.flatMap_cons, ← Multiset.coe_add,
        ih (by simpa [hother] using hleading) (by simpa [hrole] using htrailing), hrest,
        keywordLookups_cons_positional ps _ hpositional, succ_nsmul]
      simp only [Bound.nodes]
      abel
  | case9 p ps portions hrole node hlookup ih | case11 p ps portions hrole node hlookup ih =>
      have hother : p.role.takesLeading = false := by rw [hrole]; rfl
      have hkeyword : p.role.isKeyword = true := by rw [hrole]; rfl
      have hrest : (p :: ps).countP (·.role == .rest) = ps.countP (·.role == .rest) := by
        simp [hrole]
      rw [List.flatMap_cons, ← Multiset.coe_add,
        ih (by simpa [hother] using hleading) (by simpa [hrole] using htrailing), hrest,
        keywordLookups_cons ps _ hkeyword, hlookup, ← Multiset.coe_add]
      simp only [Bound.nodes, Option.toList_some]
      abel
  | case10 p ps portions hrole hlookup ih | case12 p ps portions hrole hlookup ih =>
      have hother : p.role.takesLeading = false := by rw [hrole]; rfl
      have hkeyword : p.role.isKeyword = true := by rw [hrole]; rfl
      rw [List.flatMap_cons, ← Multiset.coe_add,
        ih (by simpa [hother] using hleading) (by simpa [hrole] using htrailing),
        keywordLookups_cons ps _ hkeyword, hlookup]
      simp [Bound.nodes, hrole]

namespace BoundArguments

def supplied (arguments : BoundArguments) : List Node := arguments.bound.flatMap Bound.nodes

def forKeywords (arguments : BoundArguments) : List Node :=
  (arguments.spec.parameters.zip arguments.bound).flatMap fun pair =>
    if pair.1.role.isKeyword then pair.2.nodes else []

end BoundArguments

theorem length_distribute (ps : List (Parameter Node)) (portions : Portions) :
    (distribute ps portions).length = ps.length := by
  fun_induction distribute ps portions <;> simp_all

theorem forKeywords_distribute (spec : LambdaList Node) (portions : Portions) :
    BoundArguments.forKeywords ⟨spec, distribute spec.parameters portions⟩ =
      keywordLookups spec.parameters portions.keywords := by
  unfold BoundArguments.forKeywords
  simp only
  generalize spec.parameters = ps
  fun_induction distribute ps portions with
  | case1 => rfl
  | case9 p ps portions hrole node hlookup ih | case11 p ps portions hrole node hlookup ih =>
      have hkeyword : p.role.isKeyword = true := by rw [hrole]; rfl
      rw [keywordLookups_cons ps _ hkeyword, hlookup, ← ih]
      simp [hkeyword, Bound.nodes]
  | case10 p ps portions hrole hlookup ih | case12 p ps portions hrole hlookup ih =>
      have hkeyword : p.role.isKeyword = true := by rw [hrole]; rfl
      rw [keywordLookups_cons ps _ hkeyword, hlookup, ← ih]
      simp [Bound.nodes]
  | case2 p ps portions hrole _ _ _ ih | case4 p ps portions hrole _ _ _ ih
  | case6 p ps portions hrole _ _ _ ih => simpa [keywordLookups, hrole, Role.isKeyword] using ih
  | case3 p ps portions hrole _ ih | case5 p ps portions hrole _ ih
  | case7 p ps portions hrole _ ih => simpa [keywordLookups, hrole, Role.isKeyword] using ih
  | case8 p ps portions hrole ih => simpa [keywordLookups, hrole, Role.isKeyword] using ih

private theorem keywordLookups_perm {spec : LambdaList Node} {nodes : List Node}
    {given : KeywordArguments} (hspec : spec.Orderly) (hread : given.Read spec nodes) :
    (keywordLookups spec.parameters given).Perm (given.map (·.2)) := by
  have hnames : ((spec.parameters.filter (·.role.isKeyword)).map (·.name)).Nodup :=
    hspec.distinct.sublist (List.filter_sublist.map _)
  have hdeclared : ∀ pair ∈ given,
      pair.1 ∈ (spec.parameters.filter (·.role.isKeyword)).map (·.name) := by
    intro pair hpair
    obtain ⟨p, hp, hname, hkeyword⟩ := hread.declared pair hpair
    exact List.mem_map.mpr ⟨p, List.mem_filter.mpr ⟨hp, hkeyword⟩, hname⟩
  have hperm := lookups_perm hnames hread.distinct hdeclared
  rwa [List.filterMap_map] at hperm

theorem countP_takesLeading (ps : List (Parameter Node)) :
    ps.countP (·.role.takesLeading) =
      ps.countP (·.role == .mandatory) + ps.countP (·.role == .optional) := by
  induction ps with
  | nil => rfl
  | cons p ps ih =>
      simp only [List.countP_cons, ih]
      cases p.role <;> simp [Role.takesLeading] <;> omega

theorem Portions.cut_append (spec : LambdaList Node) (nodes : List Node)
    (keywords : KeywordArguments) :
    (Portions.cut spec nodes keywords).leading ++ (Portions.cut spec nodes keywords).remaining ++
      (Portions.cut spec nodes keywords).trailing = nodes := by
  simp [Portions.cut]

theorem supplied_eq {spec : LambdaList Node} {nodes : List Node} {arguments : BoundArguments}
    (hspec : spec.Orderly) (h : bindArguments spec nodes = .ok arguments) :
    ∃ leading remaining trailing : List Node, nodes = leading ++ remaining ++ trailing ∧
      arguments.forKeywords.Subperm remaining ∧
      (arguments.supplied : Multiset Node) =
        leading + trailing + (if spec.hasRest then 1 else 0) • ↑remaining +
          arguments.forKeywords := by
  obtain ⟨keywords, hkeywords, hlength, rfl⟩ := bindArguments_eq_ok h
  have hread := bindKeywords_read hspec.indexed hkeywords
  refine ⟨_, _, _, (Portions.cut_append spec nodes keywords).symm, ?_, ?_⟩
  · rw [forKeywords_distribute]
    exact (keywordLookups_perm hspec hread).subperm.trans hread.fromSite.subperm
  · rw [forKeywords_distribute, ← hspec.countRole_rest]
    apply distribute_supplies
    · rw [countP_takesLeading]
      exact List.length_take_le _ _
    · simp only [Portions.cut, List.length_drop]
      have hle : spec.countRole .mandatoryAfterOptional ≤ nodes.length := by omega
      change _ ≤ spec.countRole .mandatoryAfterOptional
      omega

theorem supplied_perm_of_rest {spec : LambdaList Node} {nodes : List Node}
    {arguments : BoundArguments} (hspec : spec.Orderly)
    (h : bindArguments spec nodes = .ok arguments) (hrest : spec.hasRest = true) :
    arguments.supplied.Perm (nodes ++ arguments.forKeywords) := by
  obtain ⟨leading, remaining, trailing, rfl, -, hsupplied⟩ := supplied_eq hspec h
  rw [← Multiset.coe_eq_coe, hsupplied, hrest]
  simp only [if_true, one_nsmul, ← Multiset.coe_add]
  abel

theorem supplied_subperm_iff {spec : LambdaList Node} {nodes : List Node}
    {arguments : BoundArguments} (hspec : spec.Orderly)
    (h : bindArguments spec nodes = .ok arguments) :
    arguments.supplied.Subperm nodes ↔ (spec.hasRest = true → arguments.forKeywords = []) := by
  cases hrest : spec.hasRest with
  | true =>
      have hperm := supplied_perm_of_rest hspec h hrest
      constructor
      · intro hsub _
        have hle := hsub.length_le
        rw [hperm.length_eq, List.length_append] at hle
        exact List.length_eq_zero_iff.mp (by omega)
      · intro hnone
        rw [hnone rfl, List.append_nil] at hperm
        exact hperm.subperm
  | false =>
      obtain ⟨leading, remaining, trailing, rfl, hkeywords, hsupplied⟩ := supplied_eq hspec h
      simp only [Bool.false_eq_true, false_imp_iff, iff_true]
      rw [← Multiset.coe_le, hsupplied, hrest]
      calc (leading + trailing + (if false = true then 1 else 0) • ↑remaining +
              arguments.forKeywords : Multiset Node)
          = leading + trailing + arguments.forKeywords := by simp
        _ ≤ leading + trailing + remaining :=
            Multiset.add_le_add_left (Multiset.coe_le.mpr hkeywords)
        _ = ↑(leading ++ remaining ++ trailing) := by
            rw [← Multiset.coe_add, ← Multiset.coe_add]
            abel

/-! ## What building a call evaluates -/

/-- Something that the evaluator is asked for while a call is built: the value of an expression of
the call site, or of a default form. -/
inductive Request where
  | supplied (node : Node)
  | default (node : Node)

def Request.supplied? : Request → Option Node
  | supplied node => some node
  | default _ => none

namespace Eval

variable {α β : Type} {caller frame : FrameId} {requests more : List Request}

/-- An action asks the evaluator for the given values, each once and in this order, up to the first
evaluation that has no value. It does not use the evaluator otherwise. -/
inductive Asks {α : Type} (caller : FrameId) : List Request → (Evaluator → Eval α) → Prop where
  | silent (action : Eval α) : Asks caller [] fun _ => action
  | step {β : Type} {requests : List Request} (action : Eval β) {next : β → Evaluator → Eval α}
      (rest : ∀ b, Asks caller requests (next b)) :
      Asks caller requests fun ev => action >>= fun b => next b ev
  | supplied {requests : List Request} (node : Node) {next : Value → Evaluator → Eval α}
      (rest : ∀ v, Asks caller requests (next v)) :
      Asks caller (.supplied node :: requests) fun ev => ev.node caller node >>= fun v => next v ev
  | default {requests : List Request} (frame : FrameId) (node : Node)
      {next : Value → Evaluator → Eval α} (rest : ∀ v, Asks caller requests (next v)) :
      Asks caller (.default node :: requests) fun ev => ev.node frame node >>= fun v => next v ev

namespace Asks

theorem bind {first : Evaluator → Eval α} {next : α → Evaluator → Eval β}
    (h : Asks caller requests first) (hnext : ∀ a, Asks caller more (next a)) :
    Asks caller (requests ++ more) fun ev => first ev >>= fun a => next a ev := by
  induction h with
  | silent action => exact .step action hnext
  | step action _ ih =>
      simp only [bind_assoc]
      exact .step action ih
  | supplied node _ ih =>
      simp only [bind_assoc]
      exact .supplied node ih
  | default frame node _ ih =>
      simp only [bind_assoc]
      exact .default frame node ih

theorem andThen {first : Evaluator → Eval α} {next : α → Eval β} (h : Asks caller requests first) :
    Asks caller requests fun ev => first ev >>= next := by
  simpa using h.bind fun a => .silent (next a)

end Asks

theorem values_asks (nodes : List Node) :
    Asks caller (nodes.map .supplied) fun ev => values ev caller nodes := by
  induction nodes with
  | nil => exact .silent _
  | cons node nodes ih => exact .supplied node fun v => ih.andThen

theorem argumentValue_asks (bound : Bound) :
    Asks caller (bound.nodes.map .supplied) fun ev => argumentValue ev caller bound := by
  cases bound with
  | missing => exact .silent _
  | single node =>
      have h : Asks caller [.supplied node] fun ev => ev.node caller node >>= pure :=
        .supplied node fun v => .silent (pure v)
      simpa [Bound.nodes, argumentValue] using h
  | rest nodes => exact (values_asks nodes).andThen

theorem argumentValues_asks (bounds : List Bound) :
    Asks caller ((bounds.flatMap Bound.nodes).map .supplied) fun ev =>
      argumentValues ev caller bounds := by
  induction bounds with
  | nil => exact .silent _
  | cons bound bounds ih =>
      rw [List.flatMap_cons, List.map_append]
      exact (argumentValue_asks bound).bind fun v => ih.andThen

end Eval

def Bound.requests (p : Parameter Node) : Bound → List Request
  | missing => p.default.toList.map .default
  | single node => if p.isLazy then [] else [.supplied node]
  | rest nodes => nodes.map .supplied

def BoundArguments.requests (arguments : BoundArguments) : List Request :=
  (arguments.spec.parameters.zip arguments.bound).flatMap fun pair => pair.2.requests pair.1

namespace Eval

variable {caller frame : FrameId}

theorem parameterSlot_asks (p : Parameter Node) (bound : Bound) :
    Asks caller (bound.requests p) fun ev => parameterSlot ev caller frame p bound := by
  cases bound with
  | missing =>
      unfold Bound.requests
      simp only [parameterSlot, defaultValue]
      cases p.default with
      | none => exact (Asks.silent _).andThen
      | some node => exact .default frame node fun v => .silent _
  | single node =>
      unfold Bound.requests
      simp only [parameterSlot]
      cases p.isLazy with
      | true => exact .silent _
      | false => exact .supplied node fun v => .silent _
  | rest nodes => exact (values_asks nodes).andThen

theorem fillSlots_asks (index : Nat) (ps : List (Parameter Node)) (bounds : List Bound) :
    Asks caller ((ps.zip bounds).flatMap fun pair => pair.2.requests pair.1) fun ev =>
      fillSlots ev caller frame index ps bounds := by
  induction ps generalizing index bounds with
  | nil => exact .silent _
  | cons p ps ih =>
      cases bounds with
      | nil => exact .silent _
      | cons bound bounds =>
          simp only [fillSlots_cons_eq, List.zip_cons_cons, List.flatMap_cons]
          exact (parameterSlot_asks p bound).bind fun filled => .step _ fun _ =>
            ih (index + 1) bounds

theorem callFrame_asks (defining : FrameId) (arguments : BoundArguments) :
    Asks caller arguments.requests fun ev => callFrame ev caller defining arguments :=
  .step _ fun _ => (fillSlots_asks 0 _ _).andThen

end Eval

/-! ## How often -/

theorem requests_supplied {ps : List (Parameter Node)} {bounds : List Bound}
    (hlength : bounds.length = ps.length) (heager : ∀ p ∈ ps, p.isLazy = false) :
    ((ps.zip bounds).flatMap fun pair => pair.2.requests pair.1).filterMap Request.supplied? =
      bounds.flatMap Bound.nodes := by
  have hsupplied (nodes : List Node) :
      (nodes.map Request.supplied).filterMap Request.supplied? = nodes := by
    simp [List.filterMap_map, Function.comp_def, Request.supplied?]
  induction ps generalizing bounds with
  | nil =>
      obtain rfl : bounds = [] := by simpa using hlength
      rfl
  | cons p ps ih =>
      cases bounds with
      | nil => simp at hlength
      | cons bound bounds =>
          have hrest := ih (by simpa using hlength) fun q hq => heager q (by simp [hq])
          have hfirst : (bound.requests p).filterMap Request.supplied? = bound.nodes := by
            cases bound with
            | missing =>
                unfold Bound.requests
                cases p.default with
                | none => rfl
                | some node => rfl
            | single node =>
                simp [Bound.requests, heager p (by simp), Request.supplied?, Bound.nodes]
            | rest nodes => exact hsupplied nodes
          rw [List.zip_cons_cons, List.flatMap_cons, List.filterMap_append, hfirst, hrest,
            List.flatMap_cons]

/-- A native function is called on the values of what the call site supplies, and the frame of a
function without lazy parameters is filled with them. Each expression of the site is evaluated at
most once, unless a lambda list with a rest parameter is given keywords: what is given for them is
then evaluated once for the rest and once for the keyword. -/
theorem arguments_evaluated_once_iff {spec : LambdaList Node} {nodes : List Node}
    {arguments : BoundArguments} (hspec : spec.Accepted)
    (hbind : bindArguments spec nodes = .ok arguments) (caller defining : FrameId) :
    Eval.Asks caller (arguments.supplied.map .supplied)
      (fun ev => Eval.argumentValues ev caller arguments.bound) ∧
    Eval.Asks caller arguments.requests
      (fun ev => Eval.callFrame ev caller defining arguments) ∧
    ((∀ p ∈ spec.parameters, p.isLazy = false) →
      arguments.requests.filterMap Request.supplied? = arguments.supplied) ∧
    (arguments.supplied.Subperm nodes ↔ (spec.hasRest = true → arguments.forKeywords = [])) ∧
    (spec.hasRest = true → arguments.supplied.Perm (nodes ++ arguments.forKeywords)) := by
  refine ⟨Eval.argumentValues_asks _, Eval.callFrame_asks defining arguments, ?_,
    supplied_subperm_iff hspec.orderly hbind, supplied_perm_of_rest hspec.orderly hbind⟩
  intro heager
  obtain ⟨keywords, -, -, rfl⟩ := bindArguments_eq_ok hbind
  exact requests_supplied (length_distribute _ _) heager

/-- Positional, rest and keyword parameters at once: the expression for the keyword counts twice. -/
theorem arguments_evaluated_once_iff_keyword :
    let x : Node := .ofValue (.int 0) none
    let key : Node := .ofValue (.keyword "K") none
    let node : Node := ⟨.readVariable "A", "A", some .start⟩
    let spec : LambdaList Node := .ofList [⟨"X", .mandatory, none, none, false, false, false⟩,
      ⟨"MORE", .rest, none, none, false, false, false⟩,
      ⟨"K", .restThenKeyword, none, none, false, false, false⟩]
    let arguments : BoundArguments := ⟨spec, [.single x, .rest [key, node], .single node]⟩
    (LambdaList.ofTokens [.name "X", .marker "&REST", .name "MORE", .marker "&KEY", .name "K"] :
      Except Cause (LambdaList Node)) = .ok spec ∧
    bindArguments spec [x, key, node] = .ok arguments ∧
    arguments.requests.filterMap Request.supplied? = [x, key, node, node] ∧
    ¬ arguments.supplied.Subperm [x, key, node] := by
  intro x key node spec arguments
  have hrest : Marker.ofText? "&REST" = some .rest := by decide +kernel
  have hkey : Marker.ofText? "&KEY" = some .key := by decide +kernel
  have hread : (LambdaList.ofTokens [.name "X", .marker "&REST", .name "MORE", .marker "&KEY",
      .name "K"] : Except Cause (LambdaList Node)) = .ok spec := by
    simp only [LambdaList.ofTokens, LambdaReader.takeAll, LambdaReader.take,
      LambdaReader.takeMarker, hrest, hkey]
    rfl
  have hbind : bindArguments spec [x, key, node] = .ok arguments := by
    subst x key node spec arguments
    rfl
  obtain ⟨-, -, hrequests, honce, -⟩ :=
    arguments_evaluated_once_iff (.read hread) hbind World.root World.root
  refine ⟨hread, hbind, hrequests (by simp [spec, LambdaList.ofList, LambdaList.add,
    LambdaList.empty]), ?_⟩
  intro hsub
  exact absurd (honce.mp hsub rfl) (by simp [arguments, spec, LambdaList.ofList, LambdaList.add,
    LambdaList.empty, BoundArguments.forKeywords, Role.isKeyword, Bound.nodes])

/-- In `((LAMBDA (&REST MORE &KEY K) 7) :K (SETQ N (+ N 1)))` the assignment happens twice. -/
theorem call_evaluates_keyword_twice :
    let int (n : Int32) : Form := .leaf (.int n) .start none
    let items (forms : List Form) : Form := .ofItems forms .start
    let name (text : String) : Form := .ofSymbol text .start
    let reset : Form := items [name "SETQ", name "N", int 0]
    let count : Form := items [name "SETQ", name "N", items [name "+", name "N", int 1]]
    let function : Form := items [name "LAMBDA",
      items [name "&REST", name "MORE", name "&KEY", name "K"], int 7]
    let call : Form := items [function, .leaf (.keyword "K") .start none, count]
    let interpreter := Interpreter.new ⟨.raise, 1000⟩
    (interpreter.run (Interpreter.evalAll (interpreter.evaluator 10) .nil
      [reset, call, name "N"])).1 = .ok (.int 2) := by
  intro int items name reset count function call interpreter
  have hend : Eval.endingInt? (interpreter.run (Interpreter.evalAll (interpreter.evaluator 10) .nil
      [reset, call, name "N"])).1 = some (false, 2) := by decide +kernel
  exact Eval.eq_of_endingInt? hend

end LispEngine
