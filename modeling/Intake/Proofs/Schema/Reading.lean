import Intake.Schema.Loading
import Intake.Proofs.Schema.Keyword

/-! # What limits and annotations are read from

Limits and annotations are read from an object exactly when every keyword of theirs is written there
as its value, if it has one, and when counts are counts and the pattern is one.
-/

namespace Intake.Loader

open Members (find?)

variable {members : Members}

theorem pattern_accepted_iff {text : String} :
    Pattern.isAccepted text ↔ ∃ pattern, Pattern.ofText text = .ok pattern := by
  rw [Pattern.isAccepted]
  cases Pattern.ofText text <;> simp [Except.isOk, Except.toBool]

/-- The limits of a string beside its pattern, which is read first. -/
theorem otherStringLimits_eq_ok_iff {pattern : Option String} {limits : StringLimits} :
    (do
        return ({
          format := ← Keyword.string members "format"
          minLength := ← Keyword.count members "minLength"
          maxLength := ← Keyword.count members "maxLength"
          pattern
          mediaType := ← Keyword.string members "contentMediaType"
          encoding := ← Keyword.string members "contentEncoding" } : StringLimits) :
        Except SchemaFault StringLimits) = .ok limits ↔
      pattern = limits.pattern ∧ find? members "format" = limits.format.map .string ∧
        (find? members "minLength" = limits.minLength.map .ofNat ∧
          ∀ n ∈ limits.minLength, IsCount n) ∧
        (find? members "maxLength" = limits.maxLength.map .ofNat ∧
          ∀ n ∈ limits.maxLength, IsCount n) ∧
        find? members "contentMediaType" = limits.mediaType.map .string ∧
        find? members "contentEncoding" = limits.encoding.map .string := by
  simp only [except_bind_eq_ok, Keyword.string_eq_ok_iff, Keyword.count_eq_ok_iff]
  constructor
  · rintro ⟨format, h₁, least, h₂, most, h₃, media, h₄, encoding, h₅, same⟩
    cases same
    exact ⟨rfl, h₁, h₂, h₃, h₄, h₅⟩
  · rintro ⟨rfl, h₁, h₂, h₃, h₄, h₅⟩
    exact ⟨_, h₁, _, h₂, _, h₃, _, h₄, _, h₅, rfl⟩

theorem stringLimits_eq_ok_iff {limits : StringLimits} :
    stringLimits members = .ok limits ↔
      find? members "pattern" = limits.pattern.map .string ∧
        (∀ text ∈ limits.pattern, Pattern.isAccepted text) ∧
        find? members "format" = limits.format.map .string ∧
        (find? members "minLength" = limits.minLength.map .ofNat ∧
          ∀ n ∈ limits.minLength, IsCount n) ∧
        (find? members "maxLength" = limits.maxLength.map .ofNat ∧
          ∀ n ∈ limits.maxLength, IsCount n) ∧
        find? members "contentMediaType" = limits.mediaType.map .string ∧
        find? members "contentEncoding" = limits.encoding.map .string := by
  rw [stringLimits, except_bind_eq_ok]
  simp only [Keyword.string_eq_ok_iff]
  constructor
  · rintro ⟨pattern, written, checked⟩
    cases pattern with
    | none =>
      obtain ⟨same, others⟩ := otherStringLimits_eq_ok_iff.mp checked
      rw [← same]
      exact ⟨written, by simp, others⟩
    | some text =>
      cases accepted : Pattern.ofText text with
      | error error => simp only [accepted] at checked; cases checked
      | ok pattern =>
        simp only [accepted] at checked
        obtain ⟨same, others⟩ := otherStringLimits_eq_ok_iff.mp checked
        rw [← same]
        refine ⟨written, ?_, others⟩
        rintro _ ⟨⟩
        exact pattern_accepted_iff.mpr ⟨pattern, accepted⟩
  · rintro ⟨written, accepted, others⟩
    refine ⟨limits.pattern, written, ?_⟩
    cases same : limits.pattern with
    | none => exact otherStringLimits_eq_ok_iff.mpr ⟨same.symm, others⟩
    | some text =>
      obtain ⟨pattern, accepted⟩ := pattern_accepted_iff.mp (accepted text same)
      simp only [accepted]
      exact otherStringLimits_eq_ok_iff.mpr ⟨same.symm, others⟩

theorem numberLimits_eq_ok_iff {limits : NumberLimits} :
    numberLimits members = .ok limits ↔
      find? members "minimum" = limits.minimum.map .number ∧
        find? members "maximum" = limits.maximum.map .number ∧
        find? members "exclusiveMinimum" = limits.exclusiveMinimum.map .number ∧
        find? members "exclusiveMaximum" = limits.exclusiveMaximum.map .number ∧
        find? members "multipleOf" = limits.multipleOf.map .number := by
  simp only [numberLimits, except_bind_eq_ok, Keyword.number_eq_ok_iff]
  constructor
  · rintro ⟨least, h₁, most, h₂, above, h₃, below, h₄, step, h₅, same⟩
    cases same
    exact ⟨h₁, h₂, h₃, h₄, h₅⟩
  · rintro ⟨h₁, h₂, h₃, h₄, h₅⟩
    exact ⟨_, h₁, _, h₂, _, h₃, _, h₄, _, h₅, rfl⟩

theorem annotations_eq_ok_iff {said : Annotations} :
    annotations members = .ok said ↔
      find? members "title" = said.title.map .string ∧
        find? members "description" = said.description.map .string ∧
        find? members "default" = said.default ∧
        Keyword.flag members "deprecated" = .ok said.deprecated ∧
        find? members "examples" = said.examples.map .array ∧
        Keyword.flag members "readOnly" = .ok said.readOnly ∧
        Keyword.flag members "writeOnly" = .ok said.writeOnly ∧
        find? members "enum" = said.choices.map .array ∧
        find? members "const" = said.constant := by
  simp only [annotations, except_bind_eq_ok, Keyword.string_eq_ok_iff, Keyword.list_eq_ok_iff]
  constructor
  · rintro ⟨title, h₁, description, h₂, deprecated, h₃, examples, h₄, readOnly, h₅, writeOnly, h₆,
      choices, h₇, same⟩
    cases same
    exact ⟨h₁, h₂, rfl, h₃, h₄, h₅, h₆, h₇, rfl⟩
  · rintro ⟨h₁, h₂, default, h₃, h₄, h₅, h₆, h₇, constant⟩
    refine ⟨_, h₁, _, h₂, _, h₃, _, h₄, _, h₅, _, h₆, _, h₇, ?_⟩
    rw [default, constant]
    rfl

/-- A list of names under the key of the mark is one of strings; anything else there is no list. -/
theorem requiredNames_eq_ok_iff {names : List String} :
    requiredNames members = .ok names ↔
      find? members "required" = some (.ofStrings names) ∨
        (∀ items, find? members "required" ≠ some (.array items)) ∧ names = [] := by
  rw [requiredNames]
  split
  · next items found =>
    rw [Keyword.strings_eq_ok_iff, found]
    simp [Document.ofStrings]
  · next other =>
    constructor
    · rintro ⟨⟩
      exact .inr ⟨other, rfl⟩
    · rintro (list | ⟨-, rfl⟩)
      · exact absurd list (other _)
      · rfl

end Intake.Loader
