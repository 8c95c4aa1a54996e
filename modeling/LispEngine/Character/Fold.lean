import LispEngine.Character.Set

/-!
# Case folding

Folding takes a character to the one that stands for all its forms in upper, lower and title case.
Characters with the same folding are variants of each other.
-/

namespace LispEngine

/-- Characters that fold to the one at a distance from them. -/
structure Folding where
  distance : Int
  table : List String
deriving DecidableEq, Repr

namespace Folding

def all : List Folding :=
  [⟨1,
     ["100:12E 132:136 139:147 14A:176 179:17D 182 184 187 18B 191 198 1A0:1A4 1A7 1AC 1AF 1B3",
      "1B5 1B8 1BC 1C5 1C8 1CB:1DB 1DE:1EE 1F2 1F4 1F8:21E 222:232 23B 241 246:24E 370 372 376",
      "3C2 3D8:3EE 3F7 3FA 460:480 48A:4BE 4C1:4CD 4D0:52E 1C89 1E00:1E94 1EA0:1EFE 2183 2C60",
      "2C67:2C6B 2C72 2C75 2C80:2CE2 2CEB 2CED 2CF2 A640:A66C A680:A69A A722:A72E A732:A76E A779",
      "A77B A77E:A786 A78B A790 A792 A796:A7A8 A7B4:A7C2 A7C7 A7C9 A7CC A7D0 A7D6:A7DA A7F5 FB05"]⟩,
   ⟨32,
     ["41-5A C0-D6 D8-DE 391-3A1 3A3-3AB 410-42F FF21-FF3A 10D50-10D65 118A0-118BF 16E40-16E5F"]⟩,
   ⟨48, ["531-556 2C00-2C2F"]⟩,
   ⟨-8,
     ["13F8-13FD 1F08-1F0F 1F18-1F1D 1F28-1F2F 1F38-1F3F 1F48-1F4D 1F59:1F5F 1F68-1F6F 1F88-1F8F",
      "1F98-1F9F 1FA8-1FAF 1FB8-1FB9 1FD8-1FD9 1FE8-1FE9"]⟩,
   ⟨-38864, ["AB70-ABBF"]⟩, ⟨40, ["10400-10427 104B0-104D3"]⟩, ⟨64, ["38C 10C80-10CB2"]⟩,
   ⟨-3008, ["1C90-1CBA 1CBD-1CBF"]⟩, ⟨7264, ["10A0-10C5 10C7 10CD"]⟩,
   ⟨39, ["10570-1057A 1057C-1058A 1058C-10592 10594-10595"]⟩, ⟨34, ["1E900-1E921"]⟩,
   ⟨26, ["24B6-24CF"]⟩, ⟨80, ["400-40F"]⟩, ⟨16, ["2160-216F"]⟩, ⟨2, ["1C4 1C7 1CA 1F1"]⟩,
   ⟨-130, ["220 3FD-3FF"]⟩, ⟨-86, ["1FC8-1FCB"]⟩, ⟨205, ["189-18A 193"]⟩, ⟨218, ["1A6 1A9 1AE"]⟩,
   ⟨37, ["388-38A"]⟩, ⟨-9, ["1FBC 1FCC 1FFC"]⟩, ⟨211, ["196 19C"]⟩, ⟨217, ["1B1-1B2"]⟩,
   ⟨116, ["345 37F"]⟩, ⟨63, ["38E-38F"]⟩, ⟨-48, ["3F1 A7C4"]⟩, ⟨-7, ["3F9 1FEC"]⟩,
   ⟨-6210, ["1C83-1C84"]⟩, ⟨-74, ["1FBA-1FBB"]⟩, ⟨-100, ["1FDA-1FDB"]⟩, ⟨-112, ["1FEA-1FEB"]⟩,
   ⟨-128, ["1FF8-1FF9"]⟩, ⟨-126, ["1FFA-1FFB"]⟩, ⟨-10815, ["2C7E-2C7F"]⟩, ⟨-42308, ["A7AA A7AE"]⟩,
   ⟨775, ["B5"]⟩, ⟨-121, ["178"]⟩, ⟨-268, ["17F"]⟩, ⟨210, ["181"]⟩, ⟨206, ["186"]⟩, ⟨79, ["18E"]⟩,
   ⟨202, ["18F"]⟩, ⟨203, ["190"]⟩, ⟨207, ["194"]⟩, ⟨209, ["197"]⟩, ⟨213, ["19D"]⟩, ⟨214, ["19F"]⟩,
   ⟨219, ["1B7"]⟩, ⟨-97, ["1F6"]⟩, ⟨-56, ["1F7"]⟩, ⟨10795, ["23A"]⟩, ⟨-163, ["23D"]⟩,
   ⟨10792, ["23E"]⟩, ⟨-195, ["243"]⟩, ⟨69, ["244"]⟩, ⟨71, ["245"]⟩, ⟨38, ["386"]⟩, ⟨8, ["3CF"]⟩,
   ⟨-30, ["3D0"]⟩, ⟨-25, ["3D1"]⟩, ⟨-15, ["3D5"]⟩, ⟨-22, ["3D6"]⟩, ⟨-54, ["3F0"]⟩, ⟨-60, ["3F4"]⟩,
   ⟨-64, ["3F5"]⟩, ⟨15, ["4C0"]⟩, ⟨-6222, ["1C80"]⟩, ⟨-6221, ["1C81"]⟩, ⟨-6212, ["1C82"]⟩,
   ⟨-6211, ["1C85"]⟩, ⟨-6204, ["1C86"]⟩, ⟨-6180, ["1C87"]⟩, ⟨35267, ["1C88"]⟩, ⟨-58, ["1E9B"]⟩,
   ⟨-7615, ["1E9E"]⟩, ⟨-7173, ["1FBE"]⟩, ⟨-7235, ["1FD3"]⟩, ⟨-7219, ["1FE3"]⟩, ⟨-7517, ["2126"]⟩,
   ⟨-8383, ["212A"]⟩, ⟨-8262, ["212B"]⟩, ⟨28, ["2132"]⟩, ⟨-10743, ["2C62"]⟩, ⟨-3814, ["2C63"]⟩,
   ⟨-10727, ["2C64"]⟩, ⟨-10780, ["2C6D"]⟩, ⟨-10749, ["2C6E"]⟩, ⟨-10783, ["2C6F"]⟩,
   ⟨-10782, ["2C70"]⟩, ⟨-35332, ["A77D"]⟩, ⟨-42280, ["A78D"]⟩, ⟨-42319, ["A7AB"]⟩,
   ⟨-42315, ["A7AC"]⟩, ⟨-42305, ["A7AD"]⟩, ⟨-42258, ["A7B0"]⟩, ⟨-42282, ["A7B1"]⟩,
   ⟨-42261, ["A7B2"]⟩, ⟨928, ["A7B3"]⟩, ⟨-42307, ["A7C5"]⟩, ⟨-35384, ["A7C6"]⟩, ⟨-42343, ["A7CB"]⟩,
   ⟨-42561, ["A7DC"]⟩]

def changed : CharSet := .ofTable (all.flatMap Folding.table)

/-- A folding with its table read: what it changes, and what that becomes. -/
structure Read where
  distance : Int
  sources : CharSet
  targets : CharSet

def read (folding : Folding) : Read :=
  let sources := CharSet.ofTable folding.table
  ⟨folding.distance, sources, sources.shift folding.distance⟩

def allRead : List Read := all.map read

def Read.apply (folding : Read) (set : CharSet) : CharSet :=
  (set.inter folding.sources).shift folding.distance

def Read.invert (folding : Read) (set : CharSet) : CharSet :=
  (set.inter folding.targets).shift (-folding.distance)

end Folding

namespace CharSet

def withVariants (set : CharSet) : CharSet :=
  let folded := set.union (unionAll (Folding.allRead.map (·.apply set)))
  folded.union (unionAll (Folding.allRead.map (·.invert folded)))

def withAsciiVariants (set : CharSet) : CharSet :=
  let lower := range 0x61 0x7A
  let upper := range 0x41 0x5A
  unionAll [set, (set.inter upper).shift 32, (set.inter lower).shift (-32)]

end CharSet

end LispEngine
