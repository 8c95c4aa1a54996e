import LispEngine.Character.Age
import LispEngine.Character.Break
import LispEngine.Character.Fold
import LispEngine.Pattern.Expr

/-!
# Meaning of terms

The flags decide what a term stands for. Without the flag for characters a pattern is about bytes,
and then only sets of ASCII characters can be named, since other bytes are no characters.
-/

namespace LispEngine.Pattern

/-! ## Character properties

A pattern may ask for characters by a trait, a general category or a script, or by the value of one
of a few other properties. Case, spaces, hyphens and underscores in names do not matter, nor does
`is` at their start.
-/

def canonicalName (cs : List Char) : String :=
  let (marked, cs) := match cs with
    | a :: b :: rest => if a.toLower = 'i' ∧ b.toLower = 's' then (true, rest) else (false, cs)
    | _ => (false, cs)
  let kept := cs.filter fun c => !(c == ' ' || c == '_' || c == '-') && c.toNat < 128
  match marked, kept.map Char.toLower with
  | true, ['c'] => "isc"
  | _, name => String.ofList name

/-- Names of general categories that are also names of properties of another sort. -/
def isCategoryFirst (name : String) : Bool := ["cf", "sc", "lc"].contains name

def named? (name : String) : Option CharSet :=
  let trait := if isCategoryFirst name then none else Trait.named? name
  match trait, GeneralCategory.named? name with
  | some set, _ => some set
  | none, some set => some set
  | none, none => (Script.named? name).map Script.members

def valued? (name value : String) : Option CharSet :=
  match name with
  | "gc" | "generalcategory" => GeneralCategory.named? value
  | "sc" | "script" => (Script.named? value).map Script.members
  | "scx" | "scriptextensions" => (Script.named? value).map Script.extended
  | "age" => Age.named? value
  | "gcb" | "graphemeclusterbreak" => Break.grapheme? value
  | "wb" | "wordbreak" => Break.word? value
  | "sb" | "sentencebreak" => Break.sentence? value
  | _ => none

def Query.members? : Query → Option CharSet
  | .named name => named? (canonicalName name)
  | .valued name value => valued? (canonicalName name) (canonicalName value)

/-! ## Flags -/

structure Flags where
  ignoreCase : Bool
  multiLine : Bool
  dotAll : Bool
  lazyFirst : Bool
  unicode : Bool
  carriageReturn : Bool
deriving DecidableEq, Repr

namespace Flags

def initial : Flags := ⟨false, false, false, false, true, false⟩

def set (flags : Flags) : Flag × Bool → Flags
  | (.ignoreCase, on) => { flags with ignoreCase := on }
  | (.multiLine, on) => { flags with multiLine := on }
  | (.dotAll, on) => { flags with dotAll := on }
  | (.lazyFirst, on) => { flags with lazyFirst := on }
  | (.unicode, on) => { flags with unicode := on }
  | (.carriageReturn, on) => { flags with carriageReturn := on }
  | (.verbose, _) => flags

def change (flags : Flags) (changes : FlagChanges) : Flags := changes.foldl set flags

def fold (flags : Flags) (members : CharSet) : CharSet :=
  if flags.ignoreCase then
    if flags.unicode then members.withVariants else members.withAsciiVariants
  else members

/-- The complement of a set, if asked for. Over bytes it would have members that are no
characters. -/
def negate? (flags : Flags) (negated : Bool) (members : CharSet) : Option CharSet :=
  if negated then (if flags.unicode then some members.compl else none) else some members

end Flags

/-! ## Sets -/

def wordChars : CharSet :=
  Trait.alphabetic.union
    (Trait.withTable [.mn, .mc, .me, .nd, .pc] Trait.joinControl)

def LetterClass.members (unicode : Bool) : LetterClass → CharSet
  | .digit => if unicode then GeneralCategory.members .nd else .range 0x30 0x39
  | .space => .ofTable (if unicode then Trait.whiteSpace else ["9-D 20"])
  | .word => if unicode then wordChars else .ofTable ["30-39 41-5A 5F 61-7A"]

/-- The code point of a character in a set. Over bytes only ASCII characters have one. -/
def Literal.member? (flags : Flags) (literal : Literal) : Option Nat :=
  if flags.unicode || literal.char.toNat < 128 then some literal.char.toNat else none

def letterMembers? (flags : Flags) (kind : LetterClass) (negated : Bool) : Option CharSet :=
  flags.negate? negated (kind.members flags.unicode)

def propertyMembers? (flags : Flags) (query : Query) (negated : Bool) : Option CharSet :=
  if flags.unicode then query.members?.bind fun set => flags.negate? negated (flags.fold set)
  else none

def SetOp.apply : SetOp → CharSet → CharSet → CharSet
  | .intersection, a, b => a.inter b
  | .difference, a, b => a.diff b
  | .symmetric, a, b => a.symmDiff b

mutual

def SetTerm.members? (flags : Flags) : SetTerm → Option CharSet
  | .empty => some .empty
  | .char literal => (literal.member? flags).map .single
  | .range first last => do
      let first ← first.member? flags
      let last ← last.member? flags
      return .range first last
  | .named table negated => flags.negate? negated (flags.fold (.ofTable table))
  | .letter kind negated => letterMembers? flags kind negated
  | .property query negated => propertyMembers? flags query negated
  | .bracketed body negated =>
      (body.members? flags).bind fun set => flags.negate? negated (flags.fold set)
  | .union items => (membersOfAll? flags items).map .unionAll
  | .combine op left right => do
      let left ← left.members? flags
      let right ← right.members? flags
      return op.apply (flags.fold left) (flags.fold right)

def membersOfAll? (flags : Flags) : List SetTerm → Option (List CharSet)
  | [] => some []
  | item :: items => do
      let first ← item.members? flags
      let rest ← membersOfAll? flags items
      return first :: rest

end

/-! ## Characters and places -/

/-- A character, with its variants where case does not matter. A byte past the ASCII range is no
character. -/
def Literal.expr? (flags : Flags) (literal : Literal) : Option Expr :=
  if !flags.unicode && literal.isByte && 128 ≤ literal.char.toNat then none
  else some (.ofSet (flags.fold (.single literal.char.toNat)))

def anyChar? (flags : Flags) : Option Expr :=
  if !flags.unicode then none
  else if flags.dotAll then some (.oneOf .full)
  else some (.oneOf (CharSet.compl (.ofTable (if flags.carriageReturn then ["A D"] else ["A"]))))

def Place.look (flags : Flags) : Place → Look
  | .lineStart => if flags.multiLine then .lineStart flags.carriageReturn else .start
  | .lineEnd => if flags.multiLine then .lineEnd flags.carriageReturn else .finish
  | .textStart => .start
  | .textEnd => .finish
  | place => .word place flags.unicode

/-! ## Terms -/

mutual

def Term.expr? : Flags → Term → Option (Expr × Flags)
  | flags, .empty => some (.empty, flags)
  | flags, .flags changes => some (.empty, flags.change changes)
  | flags, .char literal => (literal.expr? flags).map (·, flags)
  | flags, .anyChar => (anyChar? flags).map (·, flags)
  | flags, .place place => some (.look (place.look flags), flags)
  | flags, .letter kind negated =>
      (letterMembers? flags kind negated).map fun set => (.ofSet set, flags)
  | flags, .property query negated =>
      (propertyMembers? flags query negated).map fun set => (.ofSet set, flags)
  | flags, .set term => (term.members? flags).map fun set => (.ofSet set, flags)
  | flags, .repeated bounds greedy body =>
      (body.expr? flags).map fun (body, flags) =>
        (.repeatedOf bounds (greedy != flags.lazyFirst) body, flags)
  | flags, .capture index body =>
      (body.expr? flags).map fun (body, _) => (.capture index body, flags)
  | flags, .group changes body =>
      (body.expr? (flags.change changes)).map fun (body, _) => (body, flags)
  | flags, .concat items =>
      (exprs? flags items).map fun (items, flags) => (.concatOf items, flags)
  | flags, .alternatives items =>
      (exprs? flags items).map fun (items, flags) => (.alternativesOf items, flags)

def exprs? : Flags → List Term → Option (List Expr × Flags)
  | flags, [] => some ([], flags)
  | flags, item :: items => do
      let (first, flags) ← item.expr? flags
      let (rest, flags) ← exprs? flags items
      return (first :: rest, flags)

end

end LispEngine.Pattern
