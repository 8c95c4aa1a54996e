import LispEngine.Proofs.Integers
import Mathlib.Data.List.DropRight

/-!
# Texts of versions

A version is written as numerals with dots between them, after an optional letter `v` and with
blanks around all. What is read is exactly what is written in this way, so a version that is shown
can be read again.
-/

namespace LispEngine

/-! ## Blanks and pieces -/

namespace Text

theorem exists_eq_trim (cs : List Char) :
    ∃ before after, cs = before ++ trim cs ++ after ∧ (∀ c ∈ before, isBlank c = true) ∧
      ∀ c ∈ after, isBlank c = true := by
  refine ⟨cs.takeWhile isBlank, (trimStart cs).rtakeWhile isBlank, ?_, ?_, ?_⟩
  · have hend : trim cs ++ (trimStart cs).rtakeWhile isBlank = trimStart cs :=
      List.rdropWhile_append_rtakeWhile
    rw [List.append_assoc, hend]
    exact List.takeWhile_append_dropWhile.symm
  · exact fun c hc => List.mem_takeWhile_imp hc
  · exact fun c hc => List.mem_rtakeWhile_imp hc

private theorem trimStart_append {before rest : List Char} (h : ∀ c ∈ before, isBlank c = true) :
    trimStart (before ++ rest) = trimStart rest :=
  List.dropWhile_append_of_pos h

private theorem trimStart_self {cs : List Char} (h : ∀ c ∈ cs, isBlank c = false) :
    trimStart cs = cs := by
  cases cs with
  | nil => rfl
  | cons c cs => exact List.dropWhile_cons_of_neg (by simp [h])

theorem trim_eq {before inner after : List Char} (hbefore : ∀ c ∈ before, isBlank c = true)
    (hinner : ∀ c ∈ inner, isBlank c = false) (hafter : ∀ c ∈ after, isBlank c = true) :
    trim (before ++ inner ++ after) = inner := by
  have hend : trimEnd (inner ++ after) = inner := by
    rw [trimEnd, List.reverse_append, trimStart_append (by simpa using hafter),
      trimStart_self (by simpa using hinner), List.reverse_reverse]
  rw [trim, List.append_assoc, trimStart_append hbefore]
  cases inner with
  | nil =>
      have hblank : trimStart after = [] := List.dropWhile_eq_nil_iff.mpr hafter
      rw [List.nil_append, hblank]
      rfl
  | cons c inner =>
      have hstart : trimStart (c :: inner ++ after) = c :: inner ++ after :=
        List.dropWhile_cons_of_neg (by simp [hinner])
      rw [hstart, hend]

theorem splitOn_eq (separator : Char) (cs : List Char) :
    splitOn separator cs = cs.splitOn separator := by
  induction cs with
  | nil => rfl
  | cons c cs ih =>
      rw [splitOn, ih, List.splitOn_eq_splitOnP, List.splitOn_eq_splitOnP,
        List.splitOnP_cons_eq_if_modifyHead]
      obtain ⟨piece, pieces, hpieces⟩ :=
        List.exists_cons_of_ne_nil (List.splitOnP_ne_nil (fun x => x == separator) cs)
      by_cases hc : c = separator <;> simp [hc, hpieces]

theorem mem_intercalate {separator c : Char} {pieces : List (List Char)}
    (h : c ∈ [separator].intercalate pieces) : c = separator ∨ ∃ piece ∈ pieces, c ∈ piece := by
  induction pieces with
  | nil => simp at h
  | cons piece pieces ih =>
      cases pieces with
      | nil => exact .inr ⟨piece, by simp, by simpa using h⟩
      | cons next pieces =>
          rw [List.intercalate_cons_cons, List.mem_append, List.mem_append] at h
          rcases h with (hpiece | hseparator) | hrest
          · exact .inr ⟨piece, by simp, hpiece⟩
          · exact .inl (List.mem_singleton.mp hseparator)
          · refine (ih hrest).imp_right ?_
            rintro ⟨found, hfound, hc⟩
            exact ⟨found, List.mem_cons_of_mem _ hfound, hc⟩

/-! ## Numerals -/

def Spells (cs : List Char) (n : Nat) : Prop :=
  ∃ digits, (cs = digits ∨ cs = '+' :: digits) ∧ digits ≠ [] ∧ (∀ c ∈ digits, c.isDigit = true) ∧
    Nat.ofDigitChars 10 digits 0 = n

theorem spells_toDigits (n : Nat) : Spells (Nat.toDigits 10 n) n :=
  ⟨_, .inl rfl, Nat.toDigits_ne_nil, fun _ => Nat.isDigit_of_mem_toDigits (by decide) (by decide),
    Nat.ofDigitChars_ten_toDigits⟩

private theorem unsignedDigits_of_isDigit {digits : List Char}
    (h : ∀ c ∈ digits, c.isDigit = true) :
    unsignedDigits digits = digits := by
  unfold unsignedDigits
  split
  · simp at h
  · rfl

theorem readUnsigned?_eq_some_iff {bound : Nat} {cs : List Char} {n : Nat} :
    readUnsigned? bound cs = some n ↔ Spells cs n ∧ n < bound := by
  have hvalue (digits : List Char) : numeralValue digits = Nat.ofDigitChars 10 digits 0 := rfl
  simp only [readUnsigned?, hvalue, List.all_eq_true, Option.ite_none_right_eq_some,
    Option.some.injEq]
  constructor
  · rintro ⟨⟨hsome, hdigits, hbound⟩, rfl⟩
    refine ⟨⟨unsignedDigits cs, ?_, hsome, hdigits, rfl⟩, hbound⟩
    unfold unsignedDigits
    split <;> simp
  · rintro ⟨⟨digits, hcs, hsome, hdigits, rfl⟩, hbound⟩
    have hunsigned : unsignedDigits cs = digits := by
      rcases hcs with rfl | rfl
      · exact unsignedDigits_of_isDigit hdigits
      · rfl
    rw [hunsigned]
    exact ⟨⟨hsome, hdigits, hbound⟩, rfl⟩

def IsFigure (c : Char) : Prop := c = '.' ∨ c = '+' ∨ c.isDigit = true

theorem Spells.isFigure {cs : List Char} {n : Nat} (h : Spells cs n) : ∀ c ∈ cs, IsFigure c := by
  obtain ⟨digits, hcs, -, hdigits, -⟩ := h
  intro c hc
  rcases hcs with rfl | rfl
  · exact .inr (.inr (hdigits c hc))
  · rcases List.mem_cons.mp hc with rfl | hc
    · exact .inr (.inl rfl)
    · exact .inr (.inr (hdigits c hc))

theorem Spells.ne_nil {cs : List Char} {n : Nat} (h : Spells cs n) : cs ≠ [] := by
  obtain ⟨digits, rfl | rfl, hsome, -⟩ := h
  · exact hsome
  · simp

theorem Spells.dot_notMem {cs : List Char} {n : Nat} (h : Spells cs n) : '.' ∉ cs := by
  obtain ⟨digits, hcs, -, hdigits, -⟩ := h
  intro hdot
  have hmem : '.' ∈ digits := by
    rcases hcs with rfl | rfl
    · exact hdot
    · simpa using hdot
  simpa using hdigits '.' hmem

theorem IsFigure.not_isBlank {c : Char} (h : IsFigure c) : isBlank c = false := by
  rcases h with rfl | rfl | hdigit
  · rfl
  · rfl
  · simp only [Char.isDigit, Bool.and_eq_true, decide_eq_true_eq, ge_iff_le,
      UInt32.le_iff_toNat_le] at hdigit
    have hlow : 48 ≤ c.toNat := hdigit.1
    have hhigh : c.toNat ≤ 57 := hdigit.2
    simp [isBlank, isBlankCode]
    omega

end Text

/-! ## Versions -/

namespace Version

/-- A text of a version: numerals with dots between them, after an optional letter and with blanks
around all. Each numeral stands for the component at its place, which is a number of 64 bits. -/
def Written (parts : List UInt64) (text : List Char) : Prop :=
  ∃ before mark pieces after, text = before ++ (mark ++ ['.'].intercalate pieces) ++ after ∧
    (∀ c ∈ before, Text.isBlank c = true) ∧ (∀ c ∈ after, Text.isBlank c = true) ∧
    mark ∈ [[], ['v'], ['V']] ∧ pieces ≠ [] ∧
    List.Forall₂ (fun piece part => Text.Spells piece part.toNat) pieces parts

private theorem readPart_eq_ok_iff {piece : List Char} {part : UInt64} :
    readPart piece = .ok part ↔ Text.Spells piece part.toNat := by
  have hread : Text.readUnsigned? Text.wordBound piece = some part.toNat ↔
      Text.Spells piece part.toNat := by
    rw [Text.readUnsigned?_eq_some_iff]
    exact and_iff_left part.toNat_lt
  rw [← hread, readPart]
  cases hn : Text.readUnsigned? Text.wordBound piece with
  | none => simp
  | some n =>
      have hbound : n < 2 ^ 64 := (Text.readUnsigned?_eq_some_iff.mp hn).2
      simp only [Except.ok.injEq, Option.some.injEq]
      constructor
      · rintro rfl
        exact (UInt64.toNat_ofNat_of_lt' hbound).symm
      · rintro rfl
        exact UInt64.ofNat_toNat

theorem readParts_eq_ok_iff {pieces : List (List Char)} {parts : List UInt64} :
    readParts pieces = .ok parts ↔
      List.Forall₂ (fun piece part => Text.Spells piece part.toNat) pieces parts := by
  induction pieces generalizing parts with
  | nil => simp [readParts, eq_comm]
  | cons piece pieces ih =>
      simp only [List.forall₂_cons_left_iff, ← ih]
      simp only [← readPart_eq_ok_iff, readParts]
      cases readPart piece with
      | error problem => simp [bind, Except.bind]
      | ok part =>
          cases readParts pieces with
          | error problem => simp [bind, Except.bind]
          | ok rest => simp [bind, Except.bind, pure, Except.pure, eq_comm]

section Body

variable {pieces : List (List Char)} {parts : List UInt64}
  (h : List.Forall₂ (fun piece part => Text.Spells piece part.toNat) pieces parts)

include h

theorem spells_of_mem {piece : List Char} (hpiece : piece ∈ pieces) : ∃ n, Text.Spells piece n := by
  obtain ⟨part, hspells⟩ := exists_of_forall₂ h hpiece
  exact ⟨part.toNat, hspells⟩

theorem isFigure_of_mem_body {c : Char} (hc : c ∈ ['.'].intercalate pieces) : Text.IsFigure c := by
  rcases Text.mem_intercalate hc with rfl | ⟨piece, hpiece, hc⟩
  · exact .inl rfl
  · obtain ⟨n, hspells⟩ := spells_of_mem h hpiece
    exact hspells.isFigure c hc

theorem body_ne_nil (hsome : pieces ≠ []) : ['.'].intercalate pieces ≠ [] := by
  obtain ⟨piece, rest, rfl⟩ := List.exists_cons_of_ne_nil hsome
  obtain ⟨n, hspells⟩ := spells_of_mem h List.mem_cons_self
  cases rest with
  | nil => simpa using hspells.ne_nil
  | cons next rest => simp [List.intercalate_cons_cons]

theorem splitOn_body (hsome : pieces ≠ []) :
    Text.splitOn '.' (['.'].intercalate pieces) = pieces := by
  rw [Text.splitOn_eq]
  apply List.splitOn_intercalate _ _ hsome
  intro piece hpiece
  obtain ⟨n, hspells⟩ := spells_of_mem h hpiece
  exact hspells.dot_notMem

end Body

theorem exists_eq_dropMark (cs : List Char) :
    ∃ mark ∈ [[], ['v'], ['V']], cs = mark ++ dropMark cs := by
  unfold dropMark
  split
  · exact ⟨['v'], by simp, rfl⟩
  · exact ⟨['V'], by simp, rfl⟩
  · exact ⟨[], by simp, rfl⟩

private theorem dropMark_append {mark body : List Char} (hmark : mark ∈ [[], ['v'], ['V']])
    (hbody : ∀ c ∈ body, Text.IsFigure c) : dropMark (mark ++ body) = body := by
  simp only [List.mem_cons, List.not_mem_nil, or_false] at hmark
  rcases hmark with rfl | rfl | rfl
  · rw [List.nil_append]
    unfold dropMark
    split
    · simp [Text.IsFigure] at hbody
    · simp [Text.IsFigure] at hbody
    · rfl
  · rfl
  · rfl

private theorem trim_written {before mark body after : List Char}
    (hbefore : ∀ c ∈ before, Text.isBlank c = true)
    (hmark : mark ∈ [[], ['v'], ['V']]) (hbody : ∀ c ∈ body, Text.IsFigure c)
    (hafter : ∀ c ∈ after, Text.isBlank c = true) :
    Text.trim (before ++ (mark ++ body) ++ after) = mark ++ body := by
  apply Text.trim_eq hbefore _ hafter
  intro c hc
  rcases List.mem_append.mp hc with hc | hc
  · simp only [List.mem_cons, List.not_mem_nil, or_false] at hmark
    rcases hmark with rfl | rfl | rfl
    · cases hc
    · rw [List.mem_singleton.mp hc]
      rfl
    · rw [List.mem_singleton.mp hc]
      rfl
  · exact (hbody c hc).not_isBlank

private theorem parse_eq (text : String) (hsome : dropMark (Text.trim text.toList) ≠ []) :
    parse text =
    (readParts (Text.splitOn '.' (dropMark (Text.trim text.toList)))).map Version.mk := by
  unfold parse
  split
  · rename_i hempty
    exact absurd hempty hsome
  · rfl

theorem parse_eq_ok_iff {text : String} {parts : List UInt64} :
    parse text = .ok ⟨parts⟩ ↔ Written parts text.toList := by
  constructor
  · intro hread
    have hsome : dropMark (Text.trim text.toList) ≠ [] := by
      intro hempty
      rw [parse, hempty] at hread
      cases hread
    have hparts : readParts (Text.splitOn '.' (dropMark (Text.trim text.toList))) = .ok parts := by
      rw [parse_eq text hsome] at hread
      revert hread
      cases readParts (Text.splitOn '.' (dropMark (Text.trim text.toList))) with
      | error problem =>
          intro hread
          cases hread
      | ok found =>
          rintro ⟨rfl⟩
          rfl
    obtain ⟨before, after, htext, hbefore, hafter⟩ := Text.exists_eq_trim text.toList
    obtain ⟨mark, hmark, htrim⟩ := exists_eq_dropMark (Text.trim text.toList)
    refine ⟨before, mark, _, after, ?_, hbefore, hafter, hmark, ?_, readParts_eq_ok_iff.mp hparts⟩
    · rw [Text.splitOn_eq, List.intercalate_splitOn, ← htrim]
      exact htext
    · rw [Text.splitOn_eq]
      exact List.splitOn_ne_nil _ _
  · rintro ⟨before, mark, pieces, after, htext, hbefore, hafter, hmark, hsome, hspelled⟩
    have hfigures : ∀ c ∈ ['.'].intercalate pieces, Text.IsFigure c := fun c =>
      isFigure_of_mem_body hspelled
    have hbody : dropMark (Text.trim text.toList) = ['.'].intercalate pieces := by
      rw [htext, trim_written hbefore hmark hfigures hafter, dropMark_append hmark hfigures]
    rw [parse_eq text (by rw [hbody]; exact body_ne_nil hspelled hsome), hbody,
      splitOn_body hspelled hsome, readParts_eq_ok_iff.mpr hspelled]
    rfl

private theorem display_written {version : Version} (h : version.parts ≠ []) :
    Written version.parts version.display.toList := by
  refine ⟨[], [], version.parts.map fun part => Nat.toDigits 10 part.toNat, [], ?_, by simp,
    by simp, by simp, by simpa using h, ?_⟩
  · simp [display, String.toList_intercalate, Function.comp_def, Nat.toList_repr]
  · rw [List.forall₂_map_left_iff, List.forall₂_same]
    exact fun part _ => Text.spells_toDigits part.toNat

end Version

private theorem versionOfText_eq_ok_iff {text : String} {version : Version} :
    Value.versionOfText text = .ok version ↔ Version.Written version.parts text.toList := by
  rw [← Version.parse_eq_ok_iff, Value.versionOfText]
  cases Version.parse text <;> simp

/-- A text is read as a version if and only if it is one, written as numerals below the bound of 64
bits with dots between them, after at most one letter `v` or `V` and with blanks around all. The
components are the values of the numerals, in their order. Any other text is refused as an illegal
argument. A version with at least one component is read from the text that it is shown by. -/
theorem versionOfText_exact :
    (∀ text parts, Value.versionOfText text = .ok ⟨parts⟩ ↔ Version.Written parts text.toList) ∧
    (∀ text, (¬∃ parts, Version.Written parts text.toList) →
      ∃ cause, Value.versionOfText text = .error cause ∧ cause.kind = .illegalArgument) ∧
    ∀ version : Version, version.parts ≠ [] →
      Value.versionOfText version.display = .ok version := by
  refine ⟨fun text parts => versionOfText_eq_ok_iff, ?_, ?_⟩
  · intro text hrefused
    cases hread : Value.versionOfText text with
    | ok version => exact absurd ⟨version.parts, versionOfText_eq_ok_iff.mp hread⟩ hrefused
    | error cause =>
        refine ⟨cause, rfl, ?_⟩
        unfold Value.versionOfText at hread
        split at hread
        · cases hread
        · obtain rfl := Except.error.inj hread
          rfl
  · intro version hsome
    exact versionOfText_eq_ok_iff.mpr (Version.display_written hsome)

/-- Blanks, a letter, a plus sign, leading zeros and the greatest component. A second letter is
refused. -/
theorem versionOfText_exact_marked :
    let text := " \tv+1.007.18446744073709551615\n"
    (Version.Written [1, 7, 18446744073709551615] text.toList ∧
      Value.versionOfText text = .ok ⟨[1, 7, 18446744073709551615]⟩) ∧
    ((¬∃ parts, Version.Written parts "vv1".toList) ∧
      ∃ cause, Value.versionOfText "vv1" = .error cause ∧ cause.kind = .illegalArgument) ∧
    Value.versionOfText (Version.display ⟨[0, 18446744073709551615]⟩) =
      .ok ⟨[0, 18446744073709551615]⟩ := by
  intro text
  obtain ⟨hread, hrefused, hshown⟩ := versionOfText_exact
  have hwritten : Version.Written [1, 7, 18446744073709551615] text.toList := by
    refine ⟨" \t".toList, ['v'], ["+1".toList, "007".toList, "18446744073709551615".toList],
      "\n".toList, by decide, List.all_eq_true.mp rfl, List.all_eq_true.mp rfl, by simp, by simp,
      .cons ?_ (.cons ?_ (.cons ?_ .nil))⟩
    · exact ⟨['1'], .inr rfl, by simp, List.all_eq_true.mp rfl, by decide⟩
    · exact ⟨"007".toList, .inl rfl, by simp, List.all_eq_true.mp rfl, by decide⟩
    · exact ⟨"18446744073709551615".toList, .inl rfl, by simp, List.all_eq_true.mp rfl, by decide⟩
  have hdouble : ¬∃ parts, Version.Written parts "vv1".toList := by
    rintro ⟨parts, hparts⟩
    have herror : Value.versionOfText "vv1" = .error (.badVersion (.component "v1")) := rfl
    rw [(hread "vv1" parts).mpr hparts] at herror
    cases herror
  exact ⟨⟨hwritten, (hread text _).mpr hwritten⟩, ⟨hdouble, hrefused "vv1" hdouble⟩,
    hshown _ (by simp)⟩

end LispEngine
