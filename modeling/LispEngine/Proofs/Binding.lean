import Mathlib.Data.List.Forall2
import LispEngine.Proofs.Contents

/-!
# Where bound expressions come from

Binding a call site hands out the expressions of the site and makes up none. When it fails, it fails
with a plain cause.
-/

namespace LispEngine

namespace Bound

def nodes : Bound → List Node
  | missing => []
  | single node => [node]
  | rest nodes => nodes

end Bound

/-- The nodes of a function: its defaults, and the body of one that a program built. -/
def Callable.nodes : Callable → List Node
  | closure c => c.parts.children
  | native n => LambdaParts.defaults n.spec

def BoundArguments.All (N : Node → Prop) (arguments : BoundArguments) : Prop :=
  (∀ node ∈ LambdaParts.defaults arguments.spec, N node) ∧
    ∀ bound ∈ arguments.bound, ∀ node ∈ bound.nodes, N node

private theorem readKeywords_plainly {N : Node → Prop} (spec : LambdaList Node) (nodes : List Node)
    (given : KeywordArguments) (hnodes : ∀ node ∈ nodes, N node)
    (hgiven : ∀ pair ∈ given, N pair.2) :
    Plainly (fun keywords => ∀ pair ∈ keywords, N pair.2) (readKeywords spec nodes given) := by
  fun_induction readKeywords spec nodes given with
  | case1 => exact ⟨⟨by simp [CauseOf.category], rfl, rfl⟩, rfl⟩
  | case2 => exact ⟨⟨by simp [CauseOf.category], rfl, rfl⟩, rfl⟩
  | case3 key node rest given name _ _ _ _ ih =>
      refine ih (fun n hn => hnodes n (by simp [hn])) ?_
      intro pair hpair
      rcases List.mem_append.mp hpair with hpair | hpair
      · exact hgiven pair hpair
      · rw [List.mem_singleton.mp hpair]
        exact hnodes node (by simp)
  | case4 key node rest given name _ _ _ ih =>
      exact ih (fun n hn => hnodes n (by simp [hn])) hgiven
  | case5 => exact ⟨⟨by simp [CauseOf.category], rfl, rfl⟩, rfl⟩
  | case6 => exact hgiven

theorem bindKeywords_plainly {N : Node → Prop} (spec : LambdaList Node) (nodes : List Node)
    (hnodes : ∀ node ∈ nodes, N node) :
    Plainly (fun keywords => ∀ pair ∈ keywords, N pair.2) (bindKeywords spec nodes) := by
  unfold bindKeywords
  split
  · intro pair hpair
    cases hpair
  · split
    · exact ⟨⟨by simp [CauseOf.category], rfl, rfl⟩, rfl⟩
    · exact readKeywords_plainly spec nodes [] hnodes (by simp)

structure Portions.All (N : Node → Prop) (portions : Portions) : Prop where
  leading : ∀ node ∈ portions.leading, N node
  remaining : ∀ node ∈ portions.remaining, N node
  trailing : ∀ node ∈ portions.trailing, N node
  keywords : ∀ pair ∈ portions.keywords, N pair.2

theorem mem_of_lookup {α : Type} {pairs : List (String × α)} {name : String} {a : α}
    (h : pairs.lookup name = some a) : (name, a) ∈ pairs := by
  obtain ⟨before, after, rfl, -⟩ := List.lookup_eq_some_iff.mp h
  simp

private theorem all_bound_cons {N : Node → Prop} {first : Bound} {others : List Bound}
    (hfirst : ∀ node ∈ first.nodes, N node)
    (hothers : ∀ bound ∈ others, ∀ node ∈ bound.nodes, N node) :
    ∀ bound ∈ first :: others, ∀ node ∈ bound.nodes, N node := by
  intro bound hbound
  rcases List.mem_cons.mp hbound with rfl | hbound
  · exact hfirst
  · exact hothers bound hbound

theorem distribute_all {N : Node → Prop} (ps : List (Parameter Node)) (portions : Portions)
    (h : portions.All N) : ∀ bound ∈ distribute ps portions, ∀ node ∈ bound.nodes, N node := by
  fun_induction distribute ps portions with
  | case1 => intro bound hbound; cases hbound
  | case2 portions p ps _ node leading hleading ih
  | case4 portions p ps _ node leading hleading ih =>
      have hcons := hleading ▸ h.leading
      refine all_bound_cons (by simpa [Bound.nodes] using hcons node (by simp)) (ih ?_)
      exact { h with leading := fun n hn => hcons n (by simp [hn]) }
  | case6 portions p ps _ node trailing htrailing ih =>
      have hcons := htrailing ▸ h.trailing
      refine all_bound_cons (by simpa [Bound.nodes] using hcons node (by simp)) (ih ?_)
      exact { h with trailing := fun n hn => hcons n (by simp [hn]) }
  | case8 portions p ps _ ih => exact all_bound_cons h.remaining (ih h)
  | case9 portions p ps _ node hlookup ih
  | case11 portions p ps _ node hlookup ih =>
      have hnode := h.keywords _ (mem_of_lookup hlookup)
      exact all_bound_cons (by simpa [Bound.nodes] using hnode) (ih h)
  | case3 | case5 | case7 | case10 | case12 =>
      rename_i ih
      exact all_bound_cons (by simp [Bound.nodes]) (ih h)

/-- A parameter for the rest is given a list of expressions, be it an empty one. -/
def Parameter.Suits (p : Parameter Node) (bound : Bound) : Prop :=
  p.role = .rest → ∃ nodes, bound = .rest nodes

theorem Parameter.Suits.role_ne {p : Parameter Node} (h : p.Suits .missing) : p.role ≠ .rest := by
  intro hrest
  obtain ⟨nodes, hnodes⟩ := h hrest
  cases hnodes

theorem distribute_suits (ps : List (Parameter Node)) (portions : Portions) :
    List.Forall₂ Parameter.Suits ps (distribute ps portions) := by
  fun_induction distribute ps portions with
  | case1 => exact .nil
  | case8 portions p ps hrole ih => exact .cons (fun _ => ⟨_, rfl⟩) ih
  | _ =>
      rename_i ih
      refine .cons ?_ ih
      intro hrest
      simp_all

def Portions.cut (spec : LambdaList Node) (nodes : List Node) (keywords : KeywordArguments) :
    Portions :=
  let front := nodes.take (nodes.length - spec.countRole .mandatoryAfterOptional)
  let own := spec.countRole .mandatory + spec.countRole .optional
  { leading := front.take own
    remaining := front.drop own
    trailing := nodes.drop (nodes.length - spec.countRole .mandatoryAfterOptional)
    keywords }

theorem bindArguments_eq_ok {spec : LambdaList Node} {nodes : List Node}
    {arguments : BoundArguments} (h : bindArguments spec nodes = .ok arguments) :
    ∃ keywords, bindKeywords spec (Portions.cut spec nodes []).remaining = .ok keywords ∧
      spec.countRole .mandatory + spec.countRole .mandatoryAfterOptional ≤ nodes.length ∧
      arguments = ⟨spec, distribute spec.parameters (.cut spec nodes keywords)⟩ := by
  unfold bindArguments at h
  simp only at h
  split at h
  · cases h
  · rename_i hlength
    cases hkeywords : bindKeywords spec (Portions.cut spec nodes []).remaining with
    | error cause =>
        simp only [Portions.cut] at hkeywords
        rw [hkeywords] at h
        cases h
    | ok keywords =>
        refine ⟨keywords, rfl, Nat.le_of_not_lt hlength, ?_⟩
        simp only [Portions.cut] at hkeywords
        rw [hkeywords] at h
        simp only [bind, Except.bind] at h
        split at h
        · cases h
        · cases h
          rfl

theorem suits_of_bindArguments {spec : LambdaList Node} {nodes : List Node}
    {arguments : BoundArguments} (h : bindArguments spec nodes = .ok arguments) :
    List.Forall₂ Parameter.Suits spec.parameters arguments.bound := by
  obtain ⟨keywords, -, -, rfl⟩ := bindArguments_eq_ok h
  exact distribute_suits _ _

theorem Portions.cut_all {N : Node → Prop} {spec : LambdaList Node} {nodes : List Node}
    {keywords : KeywordArguments} (hnodes : ∀ node ∈ nodes, N node)
    (hkeywords : ∀ pair ∈ keywords, N pair.2) : (Portions.cut spec nodes keywords).All N where
  leading _ hnode := hnodes _ (List.mem_of_mem_take (List.mem_of_mem_take hnode))
  remaining _ hnode := hnodes _ (List.mem_of_mem_take (List.mem_of_mem_drop hnode))
  trailing _ hnode := hnodes _ (List.mem_of_mem_drop hnode)
  keywords := hkeywords

theorem bindArguments_supplies {N : Node → Prop} {spec : LambdaList Node} {nodes : List Node}
    {arguments : BoundArguments} (h : bindArguments spec nodes = .ok arguments)
    (hnodes : ∀ node ∈ nodes, N node) :
    ∀ bound ∈ arguments.bound, ∀ node ∈ bound.nodes, N node := by
  obtain ⟨keywords, hkeywords, -, rfl⟩ := bindArguments_eq_ok h
  have hremaining : ∀ node ∈ (Portions.cut spec nodes []).remaining, N node :=
    (Portions.cut_all hnodes (by simp)).remaining
  have hgiven := bindKeywords_plainly spec _ hremaining
  rw [hkeywords] at hgiven
  exact distribute_all spec.parameters _ (Portions.cut_all hnodes hgiven)

theorem bindArguments_plainly {N : Node → Prop} (spec : LambdaList Node) (nodes : List Node)
    (hspec : ∀ node ∈ LambdaParts.defaults spec, N node) (hnodes : ∀ node ∈ nodes, N node) :
    Plainly (BoundArguments.All N) (bindArguments spec nodes) := by
  unfold bindArguments
  simp only
  split
  · exact ⟨⟨by simp [CauseOf.category], rfl, rfl⟩, rfl⟩
  · have hfront : ∀ node ∈ nodes.take (nodes.length - spec.countRole .mandatoryAfterOptional),
        N node := fun node hnode => hnodes node (List.mem_of_mem_take hnode)
    refine (bindKeywords_plainly spec _ fun node hnode =>
      hfront node (List.mem_of_mem_drop hnode)).bind fun keywords hkeywords => ?_
    split
    · exact ⟨⟨by simp [CauseOf.category], rfl, rfl⟩, rfl⟩
    · exact ⟨hspec, distribute_all spec.parameters _ (Portions.cut_all hnodes hkeywords)⟩

end LispEngine
