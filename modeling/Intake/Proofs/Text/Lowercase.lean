import Intake.Text.Blank
import Intake.Text.Lowercase
import Mathlib.Data.List.Basic

/-! # Lower case is final

Mapping a character to its lower case leads to characters that are their own lower case, and never
from a letter to a blank. The runs of the mapping show both: the codes that a run is mapped to miss
every run and every range of blanks, either because they lie apart or because the two step over each
other. So lower case leaves its own results alone.
-/

namespace Intake

open Unicode

namespace Unicode.CaseRun

/-- The codes that a run is mapped to lie before or after another run, or between its members. -/
def avoids (run other : CaseRun) : Bool :=
  Nat.blt (run.apply run.last) other.first || Nat.blt other.last (run.apply run.first) ||
    (Nat.beq other.stride 2 && (Nat.beq run.first run.last || Nat.beq run.stride 2) &&
      Nat.beq ((run.apply run.first + other.first) % 2) 1)

/-- The codes that a run is mapped to are those of characters. -/
def mapsToCharacters (run : CaseRun) : Bool :=
  0 < run.apply run.first &&
    (run.apply run.last < 0xD800 || 0xDFFF < run.apply run.first && run.apply run.last < 0x110000)

variable {run : CaseRun} {code : Nat}

/-- Members of a run keep their distances. -/
theorem apply_eq (maps : run.mapsToCharacters) (member : run.contains code) :
    run.apply code = run.apply run.first + (code - run.first) ∧
      run.apply run.last = run.apply code + (run.last - code) := by
  simp only [mapsToCharacters, contains, Bool.and_eq_true, decide_eq_true_eq] at maps member
  obtain ⟨positive, -⟩ := maps
  rw [apply] at positive
  simp only [apply]
  omega

private theorem isValidChar_apply (maps : run.mapsToCharacters) (member : run.contains code) :
    (run.apply code).isValidChar := by
  have same := apply_eq maps member
  simp only [mapsToCharacters, Bool.and_eq_true, Bool.or_eq_true, decide_eq_true_eq] at maps
  rw [Nat.isValidChar]
  omega

/-- A character that a run is mapped to has the code that it is mapped to. -/
theorem toNat_ofNat_apply (maps : run.mapsToCharacters) (member : run.contains code) :
    (Char.ofNat (run.apply code)).toNat = run.apply code := by
  rw [Char.ofNat, dif_pos (isValidChar_apply maps member)]
  rfl

/-- A run that avoids another one is mapped to none of its codes. -/
theorem not_contains_apply {other : CaseRun} (maps : run.mapsToCharacters)
    (apart : run.avoids other) (member : run.contains code) : ¬other.contains (run.apply code) := by
  intro inside
  have same := apply_eq maps member
  simp only [avoids, contains, Bool.and_eq_true, Bool.or_eq_true, decide_eq_true_eq, beq_iff_eq,
    Nat.beq_eq, Nat.blt_eq] at apart member inside
  obtain ⟨⟨least, most⟩, step⟩ := member
  obtain ⟨⟨after, before⟩, step'⟩ := inside
  rcases apart with (below | above) | ⟨⟨two, single | alternates⟩, odd⟩
  · omega
  · omega
  · rw [two] at step'
    omega
  · rw [two] at step'
    rw [alternates] at step
    omega

end Unicode.CaseRun

namespace Text

/-- What holds of all characters up to a code can be checked code by code. -/
theorem char_of_lt {motive : Char → Prop} {bound : Nat}
    (checked : ∀ code < bound, motive (Char.ofNat code)) {c : Char} (small : c.toNat < bound) :
    motive c := by
  have known := checked c.toNat small
  rwa [Char.ofNat_toNat] at known

/-- What no lower case of a character lies in: the runs that have one themselves, and the blanks. -/
def avoidedRuns : List CaseRun :=
  ⟨'İ'.toNat, 'İ'.toNat, 1, 0⟩ :: lowercaseRuns ++
    blankRanges.map fun (first, last) => ⟨first, last, 1, 0⟩

theorem runs_avoid : ∀ run ∈ lowercaseRuns,
    run.mapsToCharacters ∧ ∀ other ∈ avoidedRuns, run.avoids other := by
  have checked : (lowercaseRuns.all fun run =>
      run.mapsToCharacters && avoidedRuns.all run.avoids) = true := by decide +kernel
  simpa using checked

/-- The character is its own lower case wherever it stands. -/
structure IsLower (c : Char) : Prop where
  notSigma : c ≠ 'Σ'
  lowerChar_eq : lowerChar c = [c]

private theorem isBlank_iff {c : Char} :
    isBlank c ↔ ∃ range ∈ blankRanges, CaseRun.contains ⟨range.1, range.2, 1, 0⟩ c.toNat := by
  simp [isBlank, CaseRun.contains, Nat.mod_one]

/-- A character whose code lies in no avoided run is its own lower case and no blank. -/
theorem isLower_of_avoided {c : Char} (apart : ∀ run ∈ avoidedRuns, ¬run.contains c.toNat) :
    IsLower c ∧ ¬isBlank c := by
  simp only [avoidedRuns, List.cons_append, List.forall_mem_cons, List.forall_mem_append,
    List.forall_mem_map] at apart
  obtain ⟨notDotted, notCapital, notBlank⟩ := apart
  have other (d : Char) (capital : ∃ run ∈ lowercaseRuns, run.contains d.toNat) : c ≠ d := by
    rintro rfl
    obtain ⟨run, member, inside⟩ := capital
    exact notCapital run member inside
  have dotted : c ≠ 'İ' := by
    rintro rfl
    exact notDotted (by decide)
  refine ⟨⟨other 'Σ' ⟨⟨0x3A3, 0x3AB, 1, 32⟩, by decide +kernel, by decide⟩, ?_⟩, ?_⟩
  · rw [lowerChar, if_neg dotted, List.find?_eq_none.mpr notCapital]
  · rw [isBlank_iff]
    rintro ⟨range, member, inside⟩
    exact notBlank range member inside

/-- The characters before the capital A are their own lower case. -/
theorem isLower_of_lt {c : Char} (before : c.toNat < 'A'.toNat) : IsLower c := by
  have later : ∀ run ∈ lowercaseRuns, 'A'.toNat ≤ run.first := by decide +kernel
  have apart : ∀ run ∈ lowercaseRuns, ¬run.contains c.toNat := by
    intro run member inside
    have first := later run member
    simp only [CaseRun.contains, Bool.and_eq_true, decide_eq_true_eq] at inside
    omega
  have other {d : Char} (after : 'A'.toNat ≤ d.toNat) : c ≠ d := by
    rintro rfl
    omega
  refine ⟨other (by decide), ?_⟩
  rw [lowerChar, if_neg (other (by decide)), List.find?_eq_none.mpr apart]

/-- The lower case of a character is final, and blank only if the character is. -/
theorem isLower_of_mem_lowerChar {c d : Char} (notSigma : c ≠ 'Σ') (member : d ∈ lowerChar c) :
    IsLower d ∧ (isBlank d → isBlank c) := by
  rw [lowerChar] at member
  split_ifs at member with dotted
  · subst dotted
    have apart : ∀ run ∈ avoidedRuns,
        ¬run.contains 'i'.toNat ∧ ¬run.contains '\u0307'.toNat := by
      decide +kernel
    obtain ⟨lower, notBlank⟩ : IsLower d ∧ ¬isBlank d := by
      apply isLower_of_avoided
      rcases List.mem_pair.mp member with rfl | rfl
      · exact fun run avoided => (apart run avoided).1
      · exact fun run avoided => (apart run avoided).2
    exact ⟨lower, fun blank => absurd blank notBlank⟩
  · cases found : lowercaseRuns.find? fun run => run.contains c.toNat with
    | none =>
      simp only [found, List.mem_singleton] at member
      subst member
      refine ⟨⟨notSigma, ?_⟩, id⟩
      rw [lowerChar, if_neg dotted, found]
    | some run =>
      simp only [found, List.mem_singleton] at member
      have inside : run.contains c.toNat = true := by
        simpa using List.find?_some found
      obtain ⟨maps, apart⟩ := runs_avoid run (List.mem_of_find?_eq_some found)
      have code : d.toNat = run.apply c.toNat := by
        rw [member, CaseRun.toNat_ofNat_apply maps inside]
      obtain ⟨lower, notBlank⟩ := isLower_of_avoided fun other known =>
        code ▸ CaseRun.not_contains_apply maps (apart other known) inside
      exact ⟨lower, fun blank => absurd blank notBlank⟩

theorem lowerAfter_cons {c : Char} (notSigma : c ≠ 'Σ') (before rest : List Char) :
    lowerAfter before (c :: rest) = lowerChar c ++ lowerAfter (c :: before) rest := by
  rw [lowerAfter]
  exact notSigma

private theorem isLower_sigma (final : Bool) : IsLower (if final then 'ς' else 'σ') := by
  cases final <;> exact ⟨by decide, by decide +kernel⟩

/-- Every character of a lower case text is its own lower case. -/
theorem isLower_of_mem_lowerAfter {before text : List Char} {c : Char}
    (member : c ∈ lowerAfter before text) : IsLower c := by
  induction text generalizing before with
  | nil => cases member
  | cons d rest ih =>
    by_cases sigma : d = 'Σ'
    · subst sigma
      rw [lowerAfter] at member
      rcases List.mem_cons.mp member with rfl | later
      · exact isLower_sigma _
      · exact ih later
    · rw [lowerAfter_cons sigma] at member
      rcases List.mem_append.mp member with first | later
      · exact (isLower_of_mem_lowerChar sigma first).1
      · exact ih later

private theorem lowerAfter_of_isLower {text : List Char} (lower : ∀ c ∈ text, IsLower c)
    (before : List Char) : lowerAfter before text = text := by
  induction text generalizing before with
  | nil => rfl
  | cons c rest ih =>
    obtain ⟨first, others⟩ := List.forall_mem_cons.mp lower
    rw [lowerAfter_cons first.notSigma, first.lowerChar_eq, ih others, List.singleton_append]

theorem lower_of_isLower {text : String} (lowered : ∀ c ∈ text.toList, IsLower c) :
    lower text = text := by
  rw [lower, lowerAfter_of_isLower lowered, String.ofList_toList]

theorem isLower_of_mem_lower {text : String} : ∀ c ∈ (lower text).toList, IsLower c := by
  intro c member
  rw [lower, String.toList_ofList] at member
  exact isLower_of_mem_lowerAfter member

theorem lower_lower (text : String) : lower (lower text) = lower text :=
  lower_of_isLower isLower_of_mem_lower

end Text

end Intake
