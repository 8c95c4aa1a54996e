import LispEngine.Pattern.Bytes
import LispEngine.Pattern.Trie
import Std.Data.HashMap

/-!
# Automata for sets of characters

The states for a set of characters follow the sequences of byte ranges that make up the set. States
with the same ways out are shared as far as they are remembered: the memory has a fixed number of
slots, and a state is put in the slot that its ways out lead to, in place of what stood there.
-/

namespace LispEngine.Pattern

def mix (hash : UInt64) (n : Nat) : UInt64 := (hash ^^^ n.toUInt64) * 1099511628211

def mixStart : UInt64 := 14695981039346656037

structure Transition where
  bytes : ByteRange
  target : Nat
deriving DecidableEq, Repr

/-! ## Forward -/

/-- The state at which a sequence is being read: its ways out, the last one first, and the byte
range whose way out leads to a state that is not there yet. -/
structure OpenState where
  ways : List Transition
  pending : Option ByteRange

structure Forward where
  size : Size
  memory : Std.HashMap Nat (List Transition × Nat)

namespace Forward

def slots : UInt64 := 10000

def slot (ways : List Transition) : Nat :=
  (ways.foldl (fun hash way => mix (mix (mix hash way.bytes.first) way.bytes.last) way.target)
    mixStart % slots).toNat

def state (forward : Forward) (ways : List Transition) : Option (Nat × Forward) :=
  let place := slot ways
  let known := match forward.memory[place]? with
    | some (key, id) => if key = ways then some id else none
    | none => none
  match known with
  | some id => some (id, forward)
  | none => (forward.size.add 1 (Size.byteRoom * ways.length)).map fun size =>
      (forward.size.states, ⟨size, forward.memory.insert place (ways, forward.size.states)⟩)

def settle (node : OpenState) (target : Nat) : OpenState :=
  match node.pending with
  | some bytes => ⟨⟨bytes, target⟩ :: node.ways, none⟩
  | none => node

/-- Makes states of open ones, from the innermost out, and gives the one that comes first. Past the
innermost one lies `target`. -/
def close (forward : Forward) (target : Nat) : List OpenState → Option (Nat × Forward)
  | [] => some (target, forward)
  | node :: inner => do
      let (next, forward) ← close forward target inner
      forward.state (settle node next).ways.reverse

def sharedLength : List ByteRange → List OpenState → Nat
  | bytes :: sequence, node :: nodes =>
      if node.pending = some bytes then sharedLength sequence nodes + 1 else 0
  | _, _ => 0

def openAlong (node : OpenState) : List ByteRange → List OpenState
  | [] => [node]
  | bytes :: sequence =>
      { node with pending := some bytes } :: sequence.map fun bytes => ⟨[], some bytes⟩

def addSequence (target : Nat) (forward : Forward) (nodes : List OpenState)
    (sequence : List ByteRange) : Option (Forward × List OpenState) :=
  let length := sharedLength sequence nodes
  match nodes.drop length with
  | [] => some (forward, nodes)
  | node :: inner => do
      let (next, forward) ← close forward target inner
      return (forward,
        nodes.take length ++ openAlong (settle node next) (sequence.drop length))

def addAll (target : Nat) :
    List (List ByteRange) → Forward → List OpenState → Option (Forward × List OpenState)
  | [], forward, nodes => some (forward, nodes)
  | sequence :: sequences, forward, nodes =>
      match addSequence target forward nodes sequence with
      | some (forward, nodes) => addAll target sequences forward nodes
      | none => none

end Forward

def Size.addForward (size : Size) (sequences : List (List ByteRange)) : Option Size := do
  let target := size.states
  let size ← size.add 1 0
  let (forward, nodes) ← Forward.addAll target sequences ⟨size, ∅⟩ [⟨[], none⟩]
  let (_, forward) ← Forward.close forward target nodes
  return forward.size

/-! ## Backward -/

structure Backward where
  size : Size
  memory : Std.HashMap Nat (Transition × Nat)

namespace Backward

def slots : UInt64 := 1000

def slot (way : Transition) : Nat :=
  (mix (mix (mix mixStart way.target) way.bytes.first) way.bytes.last % slots).toNat

def state (backward : Backward) (way : Transition) : Option (Nat × Backward) :=
  let place := slot way
  let known := match backward.memory[place]? with
    | some (key, id) => if key = way then some id else none
    | none => none
  match known with
  | some id => some (id, backward)
  | none => (backward.size.add 1 0).map fun size =>
      (backward.size.states, ⟨size, backward.memory.insert place (way, backward.size.states)⟩)

def addSequence (target : Nat) : List ByteRange → Backward → Option Backward
  | [], backward => some backward
  | bytes :: sequence, backward =>
      match backward.state ⟨bytes, target⟩ with
      | some (id, backward) => addSequence id sequence backward
      | none => none

def addAll (target : Nat) : List (List ByteRange) → Backward → Option Backward
  | [], backward => some backward
  | sequence :: sequences, backward =>
      match addSequence target sequence backward with
      | some backward =>
          match backward.size.addChoices 1 with
          | some size => addAll target sequences { backward with size }
          | none => none
      | none => none

end Backward

/-- Adds the states of a set that is read backward: a choice, the state at its end and those of the
sequences. -/
def Size.addBackward (size : Size) (sequences : List (List ByteRange)) : Option Size := do
  let target := size.states + 1
  let size ← size.add 2 0
  let backward ← Backward.addAll target sequences ⟨size, ∅⟩
  return backward.size

end LispEngine.Pattern
