/-!
# Sizes of automata, and tries

An automaton for a pattern is given by its states. Every state takes the same room; a state with
several ways out takes more for each of them, and the whole has a limit. Alternatives that are all
texts are read along a trie of their bytes, which keeps the order in which the texts end: after a
text has ended at a node, the texts that come later and go on from there have ways out of their own.
-/

namespace LispEngine.Pattern

/-- The size of an automaton: how many states it has, and the room for the ways out of those that
have several. -/
structure Size where
  states : Nat
  extra : Nat
deriving DecidableEq, Repr

namespace Size

def stateRoom : Nat := 32

def byteRoom : Nat := 8

def choiceRoom : Nat := 4

def limit : Nat := 0xA00000

def room (size : Size) : Nat := stateRoom * size.states + size.extra

def check (size : Size) : Option Size := if size.room ≤ limit then some size else none

def add (size : Size) (states extra : Nat) : Option Size :=
  check ⟨size.states + states, size.extra + extra⟩

def addChoices (size : Size) (count : Nat) : Option Size :=
  check { size with extra := size.extra + choiceRoom * count }

end Size

/-! ## Tries -/

/-- A node: the ways out before each text that ends there, and those after the last such text. -/
inductive Trie where
  | node (closed : List (List (Nat × Trie))) (active : List (Nat × Trie))

namespace Trie

def empty : Trie := .node [] []

def isLeaf : Trie → Bool
  | .node closed active => closed.all List.isEmpty && active.isEmpty

def put (byte : Nat) (child : Trie) : List (Nat × Trie) → List (Nat × Trie)
  | [] => [(byte, child)]
  | (b, old) :: rest => if b = byte then (byte, child) :: rest else (b, old) :: put byte child rest

/-- Ends a text at a node. Where one has ended already and nothing goes on, nothing changes. -/
def finish : Trie → Trie
  | .node closed active =>
      if (Trie.node closed active).isLeaf && !closed.isEmpty then .node closed active
      else .node (closed ++ [active]) []

def add : List Nat → Trie → Trie
  | [], trie => trie.finish
  | byte :: bytes, .node closed active =>
      .node closed (put byte (add bytes ((active.lookup byte).getD empty)) active)

/-- The room for ways out that stand together: one needs no state of its own for its choice. -/
def wayRoom (ways : List (Nat × Trie)) : Nat :=
  if ways.length < 2 then 0 else Size.byteRoom * ways.length

def size : Nat → Trie → Size
  | 0, _ => ⟨0, 0⟩
  | depth + 1, .node closed active =>
      let groups := closed ++ [active]
      let used := (groups.filter fun ways => !ways.isEmpty).length
      let own : Size := ⟨used + 1,
        Size.choiceRoom * (used + closed.length) + (groups.map wayRoom).sum⟩
      (groups.flatten.filter fun way => !way.2.isLeaf).foldl
        (fun sum way =>
          let inner := size depth way.2
          ⟨sum.states + inner.states, sum.extra + inner.extra⟩) own

end Trie

def textsSize (texts : List (List Nat)) : Size :=
  let trie := texts.foldl (fun trie bytes => trie.add bytes) Trie.empty
  let depth := texts.foldl (fun depth bytes => max depth bytes.length) 0
  let inner := trie.size (depth + 1)
  ⟨inner.states + 1, inner.extra⟩

end LispEngine.Pattern
