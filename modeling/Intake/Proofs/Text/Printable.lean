import Intake.Proofs.Text.Trimming

/-! # Printable texts

The characters that the standard formats are made of are the printable ones of ASCII. None of them is
a blank, and lower case changes only the letters A to Z among them.
-/

namespace Intake.Text

/-- The character is a printable one of ASCII other than a space. -/
def IsPrintable (c : Char) : Prop := 0x21 ≤ c.toNat ∧ c.toNat ≤ 0x7E

instance (c : Char) : Decidable (IsPrintable c) := inferInstanceAs (Decidable (_ ∧ _))

/-- What holds of the printable characters can be checked one by one. -/
theorem IsPrintable.check {motive : Char → Prop} (checked : ∀ code < 0x7F, motive (Char.ofNat code))
    {c : Char} (printable : IsPrintable c) : motive c :=
  char_of_lt checked (Nat.lt_succ_of_le printable.2)

private theorem IsPrintable.not_isBlank {c : Char} (printable : IsPrintable c) : ¬isBlank c := by
  have checked : ∀ code < 0x7F, IsPrintable (Char.ofNat code) → ¬isBlank (Char.ofNat code) := by decide
  exact printable.check (motive := fun c => IsPrintable c → ¬isBlank c) checked printable

private theorem IsPrintable.ne_sigma {c : Char} (printable : IsPrintable c) : c ≠ 'Σ' := by
  rintro rfl
  revert printable
  decide

theorem IsPrintable.lowerChar_eq {c : Char} (printable : IsPrintable c) : lowerChar c = [c.toLower] :=
  printable.check (motive := fun c => lowerChar c = [c.toLower]) (by decide +kernel)

theorem isPrintable_toLower {c : Char} (printable : IsPrintable c) : IsPrintable c.toLower := by
  have checked : ∀ code < 0x7F, IsPrintable (Char.ofNat code) → IsPrintable (Char.ofNat code).toLower := by
    decide
  exact printable.check (motive := fun c => IsPrintable c → IsPrintable c.toLower) checked printable

theorem isPrintable_of_isAlphanum {c : Char} (alphanum : c.isAlphanum) : IsPrintable c := by
  have known : decide (65 ≤ c.toNat ∧ c.toNat ≤ 90) || (97 ≤ c.toNat && c.toNat ≤ 122) ||
      (48 ≤ c.toNat && c.toNat ≤ 57) := alphanum
  simp only [Bool.or_eq_true, Bool.and_eq_true, decide_eq_true_eq] at known
  rw [IsPrintable]
  omega

theorem isPrintable_of_isDigit {c : Char} (digit : c.isDigit) : IsPrintable c :=
  isPrintable_of_isAlphanum (by simp [Char.isAlphanum, digit])

variable {text : List Char}

theorem isTrimmed_of_isPrintable (printable : ∀ c ∈ text, IsPrintable c) : IsTrimmed text :=
  ⟨fun c first => (printable c (List.mem_of_head? first)).not_isBlank,
    fun c last => (printable c (List.mem_of_getLast? last)).not_isBlank⟩

/-- Only what stands at the ends matters for a text to be trimmed. -/
theorem isTrimmed_append {front back : List Char} (nonempty : front ≠ []) (nonempty' : back ≠ [])
    (trimmed : IsTrimmed front) (trimmed' : IsTrimmed back) (between : List Char) :
    IsTrimmed (front ++ between ++ back) := by
  constructor
  · rw [List.append_assoc, List.head?_append_of_ne_nil _ nonempty]
    exact trimmed.head
  · rw [List.getLast?_append_of_ne_nil _ nonempty']
    exact trimmed'.last

theorem trim_ofList (trimmed : IsTrimmed text) : trim (String.ofList text) = String.ofList text := by
  rwa [trim_eq_self_iff, String.toList_ofList]

/-- Lower case of a printable text is that of its letters. -/
theorem lower_of_isPrintable {text : String} (printable : ∀ c ∈ text.toList, IsPrintable c) :
    lower text = lowerAscii text := by
  have each (before : List Char) {text : List Char} (printable : ∀ c ∈ text, IsPrintable c) :
      lowerAfter before text = text.map Char.toLower := by
    induction text generalizing before with
    | nil => rfl
    | cons c rest ih =>
      obtain ⟨first, others⟩ := List.forall_mem_cons.mp printable
      rw [lowerAfter_cons first.ne_sigma, first.lowerChar_eq, ih _ others, List.singleton_append,
        List.map_cons]
  rw [lower, lowerAscii, each [] printable]

theorem isPrintable_of_mem_lower {text : String} (printable : ∀ c ∈ text.toList, IsPrintable c) :
    ∀ c ∈ (lower text).toList, IsPrintable c := by
  rw [lower_of_isPrintable printable, lowerAscii, String.toList_ofList, List.forall_mem_map]
  exact fun c member => isPrintable_toLower (printable c member)

/-- The character is printable and is the lower case of printable characters only: besides those, a
dotted capital I has a small i in its lower case, and the sign of Kelvin has a small k as its own. -/
def IsPlain (c : Char) : Prop := IsPrintable c ∧ c ≠ 'i' ∧ c ≠ 'k'

instance (c : Char) : Decidable (IsPlain c) := inferInstanceAs (Decidable (_ ∧ _))

/-- Apart from the letters A to Z and the sign of Kelvin, runs lead to characters beyond ASCII. -/
theorem runs_leave : ∀ run ∈ Unicode.lowercaseRuns,
    run = ⟨0x41, 0x5A, 1, 32⟩ ∨ run = ⟨0x212A, 0x212A, 1, -8383⟩ ∨ 0x7F ≤ run.apply run.first := by
  decide +kernel

private theorem isPrintable_of_mem_lowerChar {c d : Char} (member : d ∈ lowerChar c)
    (plain : IsPlain d) : IsPrintable c := by
  obtain ⟨printable, notI, notK⟩ := plain
  rw [lowerChar] at member
  split_ifs at member with dotted
  · rcases List.mem_pair.mp member with rfl | rfl
    · exact absurd rfl notI
    · exact absurd printable (by decide)
  · cases found : Unicode.lowercaseRuns.find? fun run => run.contains c.toNat with
    | none =>
      rw [found, List.mem_singleton] at member
      exact member ▸ printable
    | some run =>
      rw [found, List.mem_singleton] at member
      have inside : run.contains c.toNat = true := by simpa using List.find?_some found
      have known := List.mem_of_find?_eq_some found
      obtain ⟨maps, -⟩ := runs_avoid run known
      have code : d.toNat = run.apply c.toNat := by
        rw [member, Unicode.CaseRun.toNat_ofNat_apply maps inside]
      rcases runs_leave run known with rfl | rfl | beyond
      · simp only [Unicode.CaseRun.contains, Bool.and_eq_true, decide_eq_true_eq] at inside
        exact ⟨by omega, by omega⟩
      · simp only [Unicode.CaseRun.contains, Bool.and_eq_true, decide_eq_true_eq] at inside
        have kelvin : c.toNat = 0x212A := by omega
        rw [kelvin] at member
        exact absurd member notK
      · have further := (Unicode.CaseRun.apply_eq maps inside).1
        have most := printable.2
        omega

private theorem lowerChar_ne_nil (c : Char) : lowerChar c ≠ [] := by
  rw [lowerChar]
  split_ifs
  · exact List.cons_ne_nil _ _
  · split <;> exact List.cons_ne_nil _ _

/-- A lower case of plain characters is that of the letters A to Z. -/
theorem lower_eq_lowerAscii {text : String} (plain : ∀ c ∈ (lower text).toList, IsPlain c) :
    lower text = lowerAscii text := by
  have each (before : List Char) {text : List Char} (plain : ∀ c ∈ lowerAfter before text, IsPlain c) :
      ∀ c ∈ text, IsPrintable c := by
    induction text generalizing before with
    | nil => exact List.forall_mem_nil _
    | cons c rest ih =>
      by_cases sigma : c = 'Σ'
      · subst sigma
        rw [lowerAfter, List.forall_mem_cons] at plain
        split_ifs at plain <;> exact absurd plain.1 (by decide)
      · rw [lowerAfter_cons sigma, List.forall_mem_append] at plain
        obtain ⟨d, mapped⟩ := List.exists_mem_of_ne_nil _ (lowerChar_ne_nil c)
        exact List.forall_mem_cons.mpr
          ⟨isPrintable_of_mem_lowerChar mapped (plain.1 d mapped), ih _ plain.2⟩
  rw [lower, String.toList_ofList] at plain
  exact lower_of_isPrintable (each [] plain)

end Intake.Text
