/-!
# Bindings

Finite maps from names, as lists of pairs with at most one pair for each name.
-/

namespace LispEngine

abbrev Bindings (α : Type) := List (String × α)

namespace Bindings

variable {α : Type}

def find? (name : String) (bindings : Bindings α) : Option α := bindings.lookup name

def has (name : String) (bindings : Bindings α) : Bool := (bindings.find? name).isSome

/-- Binds a name, in the place of its present binding if there is one. -/
def insert (name : String) (value : α) : Bindings α → Bindings α
  | [] => [(name, value)]
  | (key, old) :: rest =>
      if key = name then (name, value) :: rest else (key, old) :: insert name value rest

def erase (name : String) (bindings : Bindings α) : Bindings α :=
  bindings.filter fun pair => pair.1 != name

def names (bindings : Bindings α) : List String := bindings.map (·.1)

/-! ## What a name is bound to -/

variable {bindings : Bindings α} {name : String}

theorem find?_cons (key other : String) (a : α) (rest : Bindings α) :
    find? other ((key, a) :: rest) = if other = key then some a else find? other rest := by
  by_cases hother : other = key
  · simp [find?, hother]
  · have hkey : (other == key) = false := by simpa using hother
    simp [find?, List.lookup_cons, hkey, hother]

theorem find?_insert (bindings : Bindings α) (name other : String) (a : α) :
    (bindings.insert name a).find? other =
      if other = name then some a else bindings.find? other := by
  induction bindings with
  | nil => simp [insert, find?_cons]
  | cons pair rest ih =>
      obtain ⟨key, old⟩ := pair
      by_cases hkey : key = name
      · simp only [insert, hkey, find?_cons, if_true]
        split <;> rfl
      · simp only [insert, hkey, find?_cons, if_false, ih]
        grind

theorem find?_erase (bindings : Bindings α) (name other : String) :
    (bindings.erase name).find? other = if other = name then none else bindings.find? other := by
  induction bindings with
  | nil => simp [erase, find?]
  | cons pair rest ih =>
      by_cases hkey : pair.1 = name
      · have herase : erase name (pair :: rest) = erase name rest := by simp [erase, hkey]
        rw [herase, ih, find?_cons]
        grind
      · have herase : erase name (pair :: rest) = pair :: erase name rest := by simp [erase, hkey]
        rw [herase, find?_cons, find?_cons, ih]
        grind

theorem mem_insert {a : α} {pair : String × α} (h : pair ∈ bindings.insert name a) :
    pair = (name, a) ∨ pair ∈ bindings := by
  induction bindings with
  | nil => simpa [insert] using h
  | cons first rest ih =>
      obtain ⟨key, old⟩ := first
      unfold insert at h
      split at h
      · rcases List.mem_cons.mp h with rfl | hrest
        · exact .inl rfl
        · exact .inr (by simp [hrest])
      · rcases List.mem_cons.mp h with rfl | hrest
        · exact .inr (by simp)
        · exact (ih hrest).imp id fun hmem => by simp [hmem]

theorem mem_names_iff : name ∈ bindings.names ↔ ∃ a, bindings.find? name = some a := by
  induction bindings with
  | nil => simp [names, find?]
  | cons pair rest ih =>
      obtain ⟨key, a⟩ := pair
      have hnames : names ((key, a) :: rest) = key :: names rest := rfl
      rw [hnames, List.mem_cons, ih, find?_cons]
      by_cases hname : name = key
      · simp [hname]
      · simp [hname]

theorem erase_of_not_has (h : bindings.has name = false) : bindings.erase name = bindings := by
  rw [erase, List.filter_eq_self]
  intro pair hpair
  have hfound : pair.1 ≠ name := by
    rintro rfl
    obtain ⟨a, ha⟩ := mem_names_iff.mp (List.mem_map_of_mem hpair)
    simp [has, ha] at h
  exact bne_iff_ne.mpr hfound

end Bindings

end LispEngine
