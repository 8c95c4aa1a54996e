import LispEngine.Bindings
import LispEngine.Call.Binding
import LispEngine.Call.Primitive
import LispEngine.Character.Age
import LispEngine.Character.Break
import LispEngine.Character.Category
import LispEngine.Character.Fold
import LispEngine.Character.Script
import LispEngine.Character.Set
import LispEngine.Character.Trait
import LispEngine.Compiler.Basic
import LispEngine.Compiler.Clauses
import LispEngine.Compiler.Compile
import LispEngine.Compiler.Parameters
import LispEngine.Compiler.Special
import LispEngine.Compiler.SpecialForm
import LispEngine.Decimal.Layout
import LispEngine.Decimal.Shortest
import LispEngine.Error.Cause
import LispEngine.Error.Failure
import LispEngine.Error.Kind
import LispEngine.Eval.Basic
import LispEngine.Eval.Call
import LispEngine.Eval.Code
import LispEngine.Eval.Node
import LispEngine.Form
import LispEngine.Interpreter
import LispEngine.LambdaList.Basic
import LispEngine.LambdaList.Reader
import LispEngine.Node
import LispEngine.Number.Basic
import LispEngine.Number.Binary
import LispEngine.Number.Promotion
import LispEngine.Number.Version
import LispEngine.Pattern.Automaton
import LispEngine.Pattern.Bytes
import LispEngine.Pattern.Count
import LispEngine.Pattern.Escape
import LispEngine.Pattern.Expr
import LispEngine.Pattern.Group
import LispEngine.Pattern.Term
import LispEngine.Pattern.Meaning
import LispEngine.Pattern.Reader
import LispEngine.Pattern.Set
import LispEngine.Pattern.Sharing
import LispEngine.Pattern.Trie
import LispEngine.Proofs.Ambient
import LispEngine.Proofs.Arguments
import LispEngine.Proofs.Backtrace
import LispEngine.Proofs.Binding
import LispEngine.Proofs.BuiltIns
import LispEngine.Proofs.Caching
import LispEngine.Proofs.Compilation
import LispEngine.Proofs.Compiled
import LispEngine.Proofs.Contents
import LispEngine.Proofs.Contract
import LispEngine.Proofs.Deferral
import LispEngine.Proofs.Diagnostics
import LispEngine.Proofs.Evaluation
import LispEngine.Proofs.Forgetting
import LispEngine.Proofs.Fragment
import LispEngine.Proofs.Frames
import LispEngine.Proofs.Fuel
import LispEngine.Proofs.Guards
import LispEngine.Proofs.Handlers
import LispEngine.Proofs.LambdaLists
import LispEngine.Proofs.LateBinding
import LispEngine.Proofs.Lexical
import LispEngine.Proofs.Likeness
import LispEngine.Proofs.Moments
import LispEngine.Proofs.Numbering
import LispEngine.Proofs.Outlines
import LispEngine.Proofs.Parallel
import LispEngine.Proofs.Positional
import LispEngine.Proofs.Protection
import LispEngine.Proofs.Refusals
import LispEngine.Proofs.Returns
import LispEngine.Proofs.Routes
import LispEngine.Proofs.Safety
import LispEngine.Proofs.Session
import LispEngine.Proofs.Sites
import LispEngine.Proofs.Store
import LispEngine.Proofs.Termination
import LispEngine.Proofs.Undisturbed
import LispEngine.Proofs.WellFormed
import LispEngine.Settings
import LispEngine.Settings.Document
import LispEngine.Settings.Scalar
import LispEngine.Value.Basic
import LispEngine.Text.Basic
import LispEngine.Text.Printable
import LispEngine.Trace
import LispEngine.Value.Equality
import LispEngine.Value.Printer
import LispEngine.World.Basic
import LispEngine.World.Definitions
import LispEngine.World.Frame
import LispEngine.World.Scope
import LispEngine.Proofs.Grammar
import LispEngine.Proofs.Keywords
import LispEngine.Proofs.Parameters
import LispEngine.Proofs.Integers
import LispEngine.Proofs.Pipes
import LispEngine.Proofs.Displacement
import LispEngine.Proofs.Tracking
import LispEngine.Proofs.Transport
import LispEngine.Proofs.Readback
import LispEngine.Proofs.Components
import LispEngine.Proofs.Comparisons
import LispEngine.Proofs.Assignments
import LispEngine.Proofs.VersionTexts
import LispEngine.Proofs.Clauses
import LispEngine.Proofs.Removals
import LispEngine.Proofs.Heights
import LispEngine.Proofs.Rethrowing
import LispEngine.Proofs.Equality
import LispEngine.Proofs.Properties
