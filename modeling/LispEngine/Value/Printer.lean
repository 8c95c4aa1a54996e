import LispEngine.Value.Basic
import LispEngine.Text.Printable

/-!
# Texts of values

A value is displayed as a reader sees it, and represented as a writer would put it into a program:
the representation quotes strings and marks characters. Values inside lists and maps are always
represented.
-/

namespace LispEngine.Value

def bracketed (texts : List String) : String := "(" ++ " ".intercalate texts ++ ")"

def boolText (b : Bool) : String := if b then "true" else "false"

def displayAtom : Value → String
  | bool b => boolText b
  | number n => n.display
  | char c => String.singleton c
  | string text => text
  | symbol name => name
  | keyword name => ":" ++ name
  | regex pattern => "#\"" ++ pattern ++ "\""
  | function ref => "#<function " ++ ref.name ++ ">"
  | error _ failure => "#<" ++ failure.display ++ ">"
  | object _ typeName _ => "#<" ++ typeName ++ ">"
  | _ => "nil"

def reprAtom : Value → String
  | string text => Text.quoted text
  | char c => "#\\" ++ String.singleton c
  | v => v.displayAtom

mutual

def repr : Value → String
  | list items => bracketed (reprs items)
  | map entries => "\x7b" ++ ", ".intercalate (entryReprs entries) ++ "\x7d"
  | v => v.reprAtom

def reprs : List Value → List String
  | [] => []
  | v :: vs => v.repr :: reprs vs

def entryReprs : List (Key × Value) → List String
  | [] => []
  | (key, v) :: entries => ((ofKey key).reprAtom ++ " " ++ v.repr) :: entryReprs entries

end

def display : Value → String
  | list items => (list items).repr
  | map entries => (map entries).repr
  | v => v.displayAtom

def describe (v : Value) : String := v.typeName ++ "(" ++ v.repr ++ ")"

end LispEngine.Value
