import Intake.Proofs.Text.Printable

/-! # The case of the letters A to Z

Changing the case of letters A to Z changes nothing about the lower case of a text or about its blanks.
It could only do so by moving the end of a word, where a capital sigma has a form of its own; but these
letters have a case either way, and casing never looks past them. So texts that differ in the case of
such letters alone are looked up under the same spelling.
-/

namespace Intake.Text

open Unicode

variable {c : Char} {text other : String}

/-- What holds of the ranges read from some characters holds of those read from their text. Characters
are read one by one at once, while a text is searched for each of them. -/
theorem ranges_ofText {motive : List (Nat × Nat) → Prop} {chars : List Char}
    (holds : motive (chars.foldl CodeRanges.Cursor.step ⟨none, none, []⟩).finish.done.reverse) :
    motive (CodeRanges.ofText (String.ofList chars)).ranges := by
  rwa [CodeRanges.ofText, String.toList_ofList]

/-- Only the letters A to Z change, and they move by 32 places. -/
theorem toLower_cases (c : Char) : c.toLower = c ∨
    (0x41 ≤ c.toNat ∧ c.toNat ≤ 0x5A) ∧ c.toLower.toNat = c.toNat + 32 := by
  by_cases small : c.toNat < 0x7F
  · have checked : ∀ code < 0x7F, (Char.ofNat code).toLower = Char.ofNat code ∨
        (0x41 ≤ (Char.ofNat code).toNat ∧ (Char.ofNat code).toNat ≤ 0x5A) ∧
          (Char.ofNat code).toLower.toNat = (Char.ofNat code).toNat + 32 := by
      decide
    exact char_of_lt (motive := fun c => c.toLower = c ∨
      (0x41 ≤ c.toNat ∧ c.toNat ≤ 0x5A) ∧ c.toLower.toNat = c.toNat + 32) checked small
  · left
    refine dif_neg ?_
    rintro ⟨-, last⟩
    have most : c.toNat ≤ 'Z'.toNat := last
    have bound : 'Z'.toNat = 0x5A := rfl
    omega

/-- A set with both cases of the letters, or with neither, does not tell them apart. -/
theorem contains_toLower {set : CodeRanges}
    (alike : ∀ code, 0x41 ≤ code → code ≤ 0x5A →
      set.containsCode (code + 32) = set.containsCode code) :
    set.contains c.toLower = set.contains c := by
  rcases toLower_cases c with same | ⟨⟨first, last⟩, moved⟩
  · rw [same]
  · rw [CodeRanges.contains, moved, alike _ first last, CodeRanges.contains]

set_option maxRecDepth 40000 in
private theorem letters_cased : (0x41, 0x5A) ∈ cased.ranges ∧ (0x61, 0x7A) ∈ cased.ranges :=
  ranges_ofText (motive := fun ranges => (0x41, 0x5A) ∈ ranges ∧ (0x61, 0x7A) ∈ ranges)
    (by decide +kernel)

private theorem cased_toLower : cased.contains c.toLower = cased.contains c := by
  refine contains_toLower fun code first last => ?_
  have capital : cased.containsCode code := List.any_eq_true.mpr ⟨_, letters_cased.1, by simp; omega⟩
  have small : cased.containsCode (code + 32) := List.any_eq_true.mpr ⟨_, letters_cased.2, by simp; omega⟩
  rw [capital, small]

set_option maxRecDepth 40000 in
private theorem letters_not_caseIgnorable : ∀ range ∈ caseIgnorable.ranges,
    range.2 < 0x41 ∨ 0x5A < range.1 ∧ range.2 < 0x61 ∨ 0x7A < range.1 :=
  ranges_ofText (motive := fun ranges => ∀ range ∈ ranges,
    range.2 < 0x41 ∨ 0x5A < range.1 ∧ range.2 < 0x61 ∨ 0x7A < range.1) (by decide +kernel)

private theorem caseIgnorable_toLower :
    caseIgnorable.contains c.toLower = caseIgnorable.contains c := by
  have outside {code : Nat} (letter : (0x41 ≤ code ∧ code ≤ 0x5A) ∨ (0x61 ≤ code ∧ code ≤ 0x7A)) :
      caseIgnorable.containsCode code = false := by
    rw [CodeRanges.containsCode, List.any_eq_false]
    intro range member inside
    have known := letters_not_caseIgnorable range member
    simp only [Bool.and_eq_true, decide_eq_true_eq] at inside
    omega
  refine contains_toLower fun code first last => ?_
  rw [outside (.inl ⟨first, last⟩), outside (.inr ⟨by omega, by omega⟩)]

private theorem isBlank_toLower : isBlank c.toLower = isBlank c := by
  have checked : ∀ code < 0x5B, 0x41 ≤ code →
      CodeRanges.containsCode ⟨blankRanges⟩ (code + 32) = CodeRanges.containsCode ⟨blankRanges⟩ code := by
    decide
  exact contains_toLower fun code first last => checked code (Nat.lt_succ_of_le last) first

private theorem toLower_eq_sigma_iff : c.toLower = 'Σ' ↔ c = 'Σ' := by
  rcases toLower_cases c with same | ⟨⟨-, last⟩, moved⟩
  · rw [same]
  · have sigma : 'Σ'.toNat = 0x3A3 := rfl
    constructor
    · intro same
      rw [same] at moved
      omega
    · rintro rfl
      omega

private theorem lowerChar_toLower : lowerChar c.toLower = lowerChar c := by
  rcases toLower_cases c with same | ⟨⟨first, last⟩, moved⟩
  · rw [same]
  · have printable : IsPrintable c := ⟨by omega, by omega⟩
    have small : c.toLower.toLower = c.toLower := by
      rcases toLower_cases c.toLower with same | ⟨⟨-, again⟩, -⟩
      · exact same
      · omega
    rw [printable.lowerChar_eq, (isPrintable_toLower printable).lowerChar_eq, small]

private theorem nextIsCased_map_toLower (text : List Char) :
    nextIsCased (text.map Char.toLower) = nextIsCased text := by
  have looksPast : caseIgnorable.contains ∘ Char.toLower = caseIgnorable.contains := by
    funext c
    rw [Function.comp_apply, caseIgnorable_toLower]
  rw [nextIsCased, nextIsCased, List.dropWhile_map, looksPast]
  cases text.dropWhile caseIgnorable.contains with
  | nil => rfl
  | cons c rest => exact cased_toLower

/-- The lower case of a text is that of the text with the letters A to Z in lower case. -/
theorem lower_lowerAscii (text : String) : lower (lowerAscii text) = lower text := by
  have each (before text : List Char) :
      lowerAfter (before.map Char.toLower) (text.map Char.toLower) = lowerAfter before text := by
    induction text generalizing before with
    | nil => rfl
    | cons c rest ih =>
      have after := ih (c :: before)
      rw [List.map_cons] at after ⊢
      by_cases sigma : c = 'Σ'
      · subst sigma
        have own : 'Σ'.toLower = 'Σ' := rfl
        rw [own] at after ⊢
        rw [lowerAfter, lowerAfter, nextIsCased_map_toLower, nextIsCased_map_toLower, after]
      · rw [lowerAfter_cons (mt toLower_eq_sigma_iff.mp sigma), lowerAfter_cons sigma,
          lowerChar_toLower, after]
  rw [lower, lowerAscii, String.toList_ofList, lower]
  exact congrArg _ (each [] text.toList)

private theorem trim_lowerAscii (text : String) : trim (lowerAscii text) = lowerAscii (trim text) := by
  have blanks : isBlank ∘ Char.toLower = isBlank := funext fun _ => isBlank_toLower
  simp only [trim, lowerAscii, String.toList_ofList, trimChars, trimEnd, trimStart,
    List.dropWhile_map, ← List.map_reverse, blanks]

/-- What a text is looked up under among spellings: its lower case, without blanks at the ends. -/
def spelling (text : String) : String := lower (trim text)

/-- A spelling is looked up under itself. -/
theorem spelling_spelling (text : String) : spelling (spelling text) = spelling text := by
  have trimmed : IsTrimmed (spelling text).toList := by
    rw [spelling, lower, String.toList_ofList]
    exact (trim_eq_self_iff.mp (trim_trim text)).lowerAfter []
  rw [spelling, trim_eq_self_iff.mpr trimmed, spelling, lower_lower]

/-- Texts that differ in the case of letters A to Z alone have the same spelling. -/
theorem spelling_eq_of_lowerAscii_eq (same : lowerAscii other = lowerAscii text) :
    spelling other = spelling text := by
  have through (text : String) : spelling text = lower (trim (lowerAscii text)) := by
    rw [trim_lowerAscii, lower_lowerAscii, spelling]
  rw [through other, through text, same]

end Intake.Text
