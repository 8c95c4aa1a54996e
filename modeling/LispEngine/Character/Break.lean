import LispEngine.Character.Script
import LispEngine.Character.Trait

/-!
# Classes for text boundaries

Where a text may be cut into user-perceived characters, words and sentences depends on a class that
each character has for that purpose.
-/

namespace LispEngine.Break

open Trait (withTable)

/-! ## User-perceived characters -/

def regionalIndicators : CharSet := .ofTable Trait.regionalIndicator

def graphemeExtend : CharSet := Trait.graphemeExtend.union (.ofTable Trait.emojiModifier)

def graphemeControl : CharSet :=
  ((GeneralCategory.membersOf [.zl, .zp, .cc, .cf]).union
    (GeneralCategory.unassigned.inter Trait.defaultIgnorable)).diff
      ((CharSet.ofTable (Trait.prependedConcatenationMark ++ ["A D 200C-200D"])).union
        Trait.graphemeExtend)

def graphemePrepend : CharSet :=
  .ofTable (Trait.prependedConcatenationMark ++
    ["D4E 111C2-111C3 113D1 1193F 11941 11A3A 11A84-11A89 11D46 11F02"])

def spacingMark : CharSet :=
  (((GeneralCategory.members .mc).diff graphemeExtend).union (.ofTable ["E33 EB3"])).diff (.ofTable
    ["102B-102C 1038 1062-1064 1067-106D 1083 1087-108C 108F 109A-109C 1A61 1A63-1A64 AA7B AA7D",
     "11720-11721"])

/-- The syllables of a leading consonant and a vowel begin a block of 28 syllables each. -/
def syllableStarts : CharSet :=
  ⟨(List.range 399).map fun i => CharRange.single (0xAC00 + 28 * i)⟩

def grapheme? (name : String) : Option CharSet :=
  match name with
  | "cn" | "control" => some graphemeControl
  | "cr" => some (.single 0xD)
  | "lf" => some (.single 0xA)
  | "ex" | "extend" => some graphemeExtend
  | "l" => some (.ofTable ["1100-115F A960-A97C"])
  | "v" => some (.ofTable ["1160-11A7 D7B0-D7C6 16D63 16D67-16D6A"])
  | "t" => some (.ofTable ["11A8-11FF D7CB-D7FB"])
  | "lv" => some syllableStarts
  | "lvt" => some ((CharSet.range 0xAC00 0xD7A3).diff syllableStarts)
  | "pp" | "prepend" => some graphemePrepend
  | "ri" | "regionalindicator" => some regionalIndicators
  | "sm" | "spacingmark" => some spacingMark
  | "zwj" => some (.single 0x200D)
  | _ => none

/-! ## Words -/

def numeric : CharSet :=
  withTable [.nd] ["66B 600-605 6DD 890-891 8E2 110BD 110CD"]

def wordExtend : CharSet :=
  (withTable [.mn, .me, .mc] (Trait.otherGraphemeExtend ++ Trait.emojiModifier)).diff
    (.single 0x200D)

def hebrewLetter : CharSet :=
  match Script.named? "hebrew" with
  | some script => script.members.inter (GeneralCategory.members .lo)
  | none => .empty

def membersOfScript (name : String) : CharSet :=
  ((Script.named? name).map Script.members).getD .empty

def katakana : CharSet :=
  (membersOfScript "katakana").union (.ofTable ["3031-3035 309B-309C 30A0 30FC FF70"])

/-- Letters of scripts that are written without spaces between words. -/
def unspacedLetters : List String :=
  ["E01-E30 E32-E33 E40-E46 E81-E82 E84 E86-E8A E8C-EA3 EA5 EA7-EB0 EB2-EB3 EBD EC0-EC4 EC6",
   "EDC-EDF 1000-102A 103F 1050-1055 105A-105D 1061 1065-1066 106E-1070 1075-1081 108E 1780-17B3",
   "17D7 17DC 1950-196D 1970-1974 1980-19AB 19B0-19C9 1A20-1A54 1AA7 A9E0-A9E4 A9E6-A9EF A9FA-A9FE",
   "AA60-AA76 AA7A AA7E-AAAF AAB1 AAB5-AAB6 AAB9-AABD AAC0 AAC2 AADB-AADD 11700-1171A 11740-11746"]

def wordLetter : CharSet :=
  (Trait.alphabetic.union (.ofTable
    ["2C2-2C5 2D2-2D7 2DE-2DF 2E5-2EB 2ED 2EF-2FF 55A-55C 55E 58A 5F3 70F A708-A716 A720-A721",
     "A789-A78A AB5B"])).diff
    (CharSet.unionAll
      [.ofTable (Trait.ideographic ++ unspacedLetters), katakana, membersOfScript "hiragana",
       wordExtend, hebrewLetter])

def word? (name : String) : Option CharSet :=
  match name with
  | "cr" => some (.single 0xD)
  | "lf" => some (.single 0xA)
  | "nl" | "newline" => some (.ofTable ["B-C 85 2028-2029"])
  | "dq" | "doublequote" => some (.single 0x22)
  | "sq" | "singlequote" => some (.single 0x27)
  | "ex" | "extendnumlet" => some (withTable [.pc] ["202F"])
  | "extend" => some wordExtend
  | "fo" | "format" =>
      some ((GeneralCategory.members .cf).diff ((CharSet.ofTable
        (["200B-200D"] ++ Trait.prependedConcatenationMark)).union Trait.graphemeExtend))
  | "hl" | "hebrewletter" => some hebrewLetter
  | "ka" | "katakana" => some katakana
  | "le" | "aletter" => some wordLetter
  | "mb" | "midnumlet" => some (.ofTable ["2E 2018-2019 2024 FE52 FF07 FF0E"])
  | "ml" | "midletter" => some (.ofTable ["3A B7 387 55F 5F4 2027 FE13 FE55 FF1A"])
  | "mn" | "midnum" =>
      some (.ofTable ["2C 3B 37E 589 60C-60D 66C 7F8 2044 FE10 FE14 FE50 FE54 FF0C FF1B"])
  | "nu" | "numeric" => some numeric
  | "ri" | "regionalindicator" => some regionalIndicators
  | "wsegspace" => some ((GeneralCategory.members .zs).diff (.ofTable ["A0 2007 202F"]))
  | "zwj" => some (.single 0x200D)
  | _ => none

/-! ## Sentences -/

def sentenceExtend : CharSet := withTable [.mn, .me, .mc] (Trait.otherGraphemeExtend ++ ["200D"])

def sentenceLower : CharSet :=
  Trait.lowercase.diff (Trait.graphemeExtend.union (.ofTable ["10D0-10FA 10FD-10FF"]))

def sentenceUpper : CharSet :=
  ((GeneralCategory.members .lt).union Trait.uppercase).diff (.ofTable ["1C90-1CBA 1CBD-1CBF"])

def fullStops : List String := ["2E 2024 FE52 FF0E"]

def sentenceEnd : CharSet := (CharSet.ofTable Trait.sentenceTerminal).diff (.ofTable fullStops)

def sentence? (name : String) : Option CharSet :=
  match name with
  | "at" | "aterm" => some (.ofTable fullStops)
  | "st" | "sterm" => some sentenceEnd
  | "cl" | "close" =>
      some ((withTable [.ps, .pe, .pi, .pf]
        ["22 27 275B-2760 2E00-2E01 2E06-2E08 2E0B 1F676-1F678"]).diff sentenceEnd)
  | "cr" => some (.single 0xD)
  | "lf" => some (.single 0xA)
  | "se" | "sep" => some (.ofTable ["85 2028-2029"])
  | "sp" => some ((CharSet.ofTable Trait.whiteSpace).diff (.ofTable ["A D 85 2028-2029"]))
  | "ex" | "extend" => some sentenceExtend
  | "fo" | "format" =>
      some ((GeneralCategory.members .cf).diff (CharSet.unionAll
        [.ofTable ["200C-200D"], Trait.graphemeExtend, numeric]))
  | "lo" | "lower" => some sentenceLower
  | "up" | "upper" => some sentenceUpper
  | "le" | "oletter" =>
      some ((Trait.alphabetic.union (.ofTable ["5F3"])).diff
        (CharSet.unionAll [sentenceLower, sentenceUpper, sentenceExtend]))
  | "nu" | "numeric" => some (numeric.union (.single 0x66C))
  | "sc" | "scontinue" =>
      some (.ofTable
        ["2C-2D 3A-3B 37E 55D 60C-60D 7F8 1802 1808 2013-2014 3001 FE10-FE11 FE13-FE14 FE31-FE32",
         "FE50-FE51 FE54-FE55 FE58 FE63 FF0C-FF0D FF1A-FF1B FF64"])
  | _ => none

end LispEngine.Break
