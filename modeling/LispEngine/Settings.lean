import LispEngine.Settings.Document
import LispEngine.Text.Basic
import LispEngine.World.Frame

/-!
# Settings

What an interpreter does about missing variables, and how deep its evaluations may nest. Both are
taken from the environment, and a settings file goes before it.
-/

namespace LispEngine

structure Settings where
  missing : MissingPolicy
  maxDepth : Nat
deriving DecidableEq, Repr

namespace Settings

def defaultDepth : Nat := 1000

def isOn (text : String) : Bool :=
  ["1", "true", "yes", "on"].contains
    (String.ofList ((Text.trim text.toList).map Char.toLower))

def depthOf (text : String) : Option Nat :=
  Text.readUnsigned? Text.wordBound (Text.trim text.toList)

def ofEnvironment (lenient depth : Option String) : Settings :=
  { missing := if lenient.any isOn then .nil else .raise
    maxDepth := (depth.bind depthOf).getD defaultDepth }

/-! ## Settings files -/

def policyNamed? : String → Option MissingPolicy
  | "nil" => some .nil
  | "raise" => some .raise
  | _ => none

def isEmptyItem : SettingsFile.Item → Bool
  | .emptyList => true
  | .table _ [] => true
  | _ => false

/-- A policy is given by its name, or as a table with that name and nothing under it. -/
def policyOf? : SettingsFile.Item → Option MissingPolicy
  | .text name => policyNamed? name
  | .table _ [(name, item)] => if isEmptyItem item then policyNamed? name else none
  | _ => none

def depthOf? : SettingsFile.Item → Option Nat
  | .number n => if 0 ≤ n then some n.toNat else none
  | _ => none

structure Partial where
  missing : Option MissingPolicy
  maxDepth : Option Nat

def addEntry (settings : Partial) : String × SettingsFile.Item → Option Partial
  | ("missing-variable", item) => (policyOf? item).map fun policy =>
      { settings with missing := some policy }
  | ("max-depth", item) => (depthOf? item).map fun depth =>
      { settings with maxDepth := some depth }
  | _ => none

def ofEntries : Partial → SettingsFile.Entries → Option Partial
  | settings, [] => some settings
  | settings, entry :: entries => do
      let settings ← addEntry settings entry
      ofEntries settings entries

def read (settings : Settings) (text : String) : Except Cause Settings :=
  match (SettingsFile.parse text).bind (ofEntries ⟨none, none⟩) with
  | none => .error .invalidSettings
  | some file =>
      if file.maxDepth = some 0 then .error .zeroDepth
      else .ok {
        missing := file.missing.getD settings.missing
        maxDepth := file.maxDepth.getD settings.maxDepth }

end Settings

end LispEngine
