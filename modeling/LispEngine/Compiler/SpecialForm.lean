/-!
# Special forms

The operators that receive their parameters as forms, with their names and documentation.
-/

namespace LispEngine

inductive SpecialForm where
  | quote
  | progn
  | ifElse
  | cond
  | whenTrue
  | whenFalse
  | allOf
  | anyOf
  | whileLoop
  | foreach
  | returnForm
  | throwForm
  | pipe
  | letForm
  | dlet
  | setq
  | setv
  | lambda
  | defun
  | function
  | tryForm
deriving DecidableEq, Repr

namespace SpecialForm

def all : List SpecialForm :=
  [quote, progn, ifElse, cond, whenTrue, whenFalse, allOf, anyOf, whileLoop, foreach, returnForm,
    throwForm, pipe, letForm, dlet, setq, setv, lambda, defun, function, tryForm]

def name : SpecialForm → String
  | quote => "QUOTE"
  | progn => "PROGN"
  | ifElse => "IF"
  | cond => "COND"
  | whenTrue => "WHEN"
  | whenFalse => "UNLESS"
  | allOf => "AND"
  | anyOf => "OR"
  | whileLoop => "WHILE"
  | foreach => "FOREACH"
  | returnForm => "RETURN"
  | throwForm => "THROW"
  | pipe => "->"
  | letForm => "LET"
  | dlet => "DLET"
  | setq => "SETQ"
  | setv => "SETV"
  | lambda => "LAMBDA"
  | defun => "DEFUN"
  | function => "FUNCTION"
  | tryForm => "TRY"

def doc : SpecialForm → String
  | quote => "(QUOTE x) returns x unevaluated."
  | progn => "(PROGN body...) evaluates body in order and returns the last value."
  | ifElse => "(IF test then else...) evaluates then when test is true, else the else forms."
  | cond => "(COND (test body...)...) runs the body of the first clause whose test is true."
  | whenTrue => "(WHEN test body...) evaluates body when test is true."
  | whenFalse => "(UNLESS test body...) evaluates body when test is false."
  | allOf => "(AND x...) returns the first false value, or the last value."
  | anyOf => "(OR x...) returns the first true value, or nil."
  | whileLoop => "(WHILE test body...) repeats body while test is true."
  | foreach =>
      "(FOREACH (var source [result]) body...) runs body once per element of source."
  | returnForm => "(RETURN [value]) leaves the innermost function call with value."
  | throwForm =>
      "(THROW [Kind] message) raises an exception of Kind (RuntimeException by default)."
  | pipe => "(-> value step...) threads value through each step as its piped argument."
  | letForm => "(LET ((name value)...) body...) binds names in order in a new scope."
  | dlet =>
      "(DLET (name... [&REST rest]) list body...) binds the elements of list by position."
  | setq => "(SETQ name value...) assigns each name in the global scope."
  | setv => "(SETV name value...) assigns each name where it is nearest bound."
  | lambda => "(LAMBDA params [doc] body...) creates a closure over the current scope."
  | defun => "(DEFUN name params [doc] body...) defines or replaces a global function."
  | function => "(FUNCTION name) returns the function currently stored under name."
  | tryForm =>
      "(TRY body... (CATCH Kind var body...)... (FINALLY body...)) handles exceptions."

end SpecialForm

/-- The operators that receive their parameters as nodes. -/
inductive SpecialExpression where
  | funcall
  | apply
deriving DecidableEq, Repr

namespace SpecialExpression

def all : List SpecialExpression := [funcall, apply]

def name : SpecialExpression → String
  | funcall => "FUNCALL"
  | apply => "APPLY"

def doc : SpecialExpression → String
  | funcall => "(FUNCALL f arg...) calls the function value f with the given arguments."
  | apply =>
      "(APPLY f arg... list) calls f with the arguments followed by the elements of list."

end SpecialExpression

end LispEngine
