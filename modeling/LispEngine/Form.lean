import LispEngine.Value.Printer

/-!
# Forms

The trees that programs are given as: values and lists of forms, with their positions. A list may be
marked as data, and any form may carry the problem that its reader had with it.
-/

namespace LispEngine

inductive Form where
  | leaf (value : Value) (position : Position) (problem : Option String)
  | list (items : List Form) (literal : Bool) (position : Position) (problem : Option String)

instance : Inhabited Form := ⟨.leaf .nil .start none⟩

namespace Form

def position : Form → Position
  | leaf _ position _ => position
  | list _ _ position _ => position

def problem : Form → Option String
  | leaf _ _ problem => problem
  | list _ _ _ problem => problem

def ofSymbol (name : String) (position : Position) : Form := .leaf (.symbol name) position none

def ofItems (items : List Form) (position : Position) : Form := .list items false position none

def symbol? : Form → Option String
  | leaf (.symbol name) _ _ => some name
  | _ => none

def items? : Form → Option (List Form)
  | list items _ _ _ => some items
  | _ => none

def isList : Form → Bool
  | list .. => true
  | _ => false

mutual

/-- The first problem, a form coming before the forms inside it. -/
def firstProblem : Form → Option (String × Position)
  | leaf _ position problem => problem.map (·, position)
  | list items _ position problem =>
      match problem with
      | some text => some (text, position)
      | none => firstProblemIn items

def firstProblemIn : List Form → Option (String × Position)
  | [] => none
  | form :: forms =>
      match form.firstProblem with
      | some found => some found
      | none => firstProblemIn forms

end

mutual

def toValue : Form → Value
  | leaf value _ _ => value
  | list items _ _ _ => .list (toValues items)

def toValues : List Form → List Value
  | [] => []
  | form :: forms => form.toValue :: toValues forms

end

mutual

def size : Form → Nat
  | leaf .. => 1
  | list items _ _ _ => 1 + sizes items

def sizes : List Form → Nat
  | [] => 0
  | form :: forms => form.size + sizes forms

end

mutual

def display : Form → String
  | leaf value _ _ => value.repr
  | list items literal _ _ => (if literal then "'" else "") ++ Value.bracketed (displays items)

def displays : List Form → List String
  | [] => []
  | form :: forms => form.display :: displays forms

end

/-- The first item of a list, if it is a symbol, in the case that names are compared in. -/
def clauseHead : Form → Option String
  | list (head :: _) _ _ _ => head.symbol?.map Text.canonical
  | _ => none

end Form

end LispEngine
