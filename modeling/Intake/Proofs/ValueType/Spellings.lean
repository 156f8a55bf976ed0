import Intake.Proofs.Document.WellFormed
import Intake.Proofs.Text.LetterCase
import Intake.ValueType.Casting

/-! # Spellings of truth values

The type of truth values takes the texts that its options list for true and for false. A text is looked
up in lower case and without blanks at its ends, and the lists are taken as they are. So a listed text
stands for a truth value exactly if the list has it in that spelling too; how the letters A to Z of a
text are written never matters.
-/

namespace Intake

open Text

namespace ValueType

variable {overrides : Members} {key text other : String} {trues falses : List String}

/-- The texts that are given for an option take the place of the default ones. -/
theorem texts_ofBuiltin_boolean (sound : (Document.object overrides).wellFormed)
    {listed : List String} (given : overrides.find? key = some (.ofStrings listed)) :
    Options.texts (ofBuiltin .boolean overrides).options key = listed := by
  have distinct := (Document.wellFormed_object.mp sound).1
  have merged : (ofBuiltin .boolean overrides).options.find? key = some (.ofStrings listed) := by
    change (Members.insertAll _ overrides).find? key = _
    rw [Members.find?_insertAll distinct, given, Option.some_or]
  rw [Options.texts, merged]
  simp [Document.ofStrings, Document.items?, Document.string?, List.filterMap_map, Function.comp_def]

/-- What a text stands for, given the texts that are listed for true and for false. -/
def truthOf? (trues falses : List String) (text : String) : Option Bool :=
  if spelling text ∈ trues then some true
  else if spelling text ∈ falses then some false
  else none

/-- A text is cast by its spelling. -/
theorem truth?_ofBuiltin (sound : (Document.object overrides).wellFormed)
    (given : overrides.find? "true_values" = some (.ofStrings trues))
    (denied : overrides.find? "false_values" = some (.ofStrings falses)) (text : String) :
    Reading.truth? (ofBuiltin .boolean overrides).options (.string text) =
      truthOf? trues falses text := by
  rw [Reading.truth?, texts_ofBuiltin_boolean sound given, texts_ofBuiltin_boolean sound denied]
  simp only [List.contains_iff_mem]
  rfl

private theorem truthOf?_eq_some_true_iff :
    truthOf? trues falses text = some true ↔ spelling text ∈ trues := by
  rw [truthOf?]
  split_ifs <;> simp_all

/-- Only a text that has the spelling of one listed for true can stand in the way of false. -/
theorem truthOf?_eq_some_false_iff (apart : ∀ other ∈ trues, spelling other ≠ spelling text) :
    truthOf? trues falses text = some false ↔ spelling text ∈ falses := by
  have untrue : spelling text ∉ trues := fun listed => apart _ listed (spelling_spelling text)
  rw [truthOf?, if_neg untrue]
  split_ifs <;> simp_all

/-- Casting to a truth value is looking the value up. -/
theorem cast_ofBuiltin_boolean (value : Document) :
    (ofBuiltin .boolean overrides).cast value =
      match Reading.truth? (ofBuiltin .boolean overrides).options value with
      | some flag => .ok (.bool flag)
      | none => .error (.castFailed BuiltinType.boolean.name (.notABoolean value.shape)) := by
  change (TypeCast.boolean (ofBuiltin .boolean overrides).options value).mapError _ = _
  unfold TypeCast.boolean
  cases Reading.truth? (ofBuiltin .boolean overrides).options value <;> rfl

private theorem cast_boolean_eq_ok_iff {value : Document} {flag : Bool} :
    (ofBuiltin .boolean overrides).cast value = .ok (.bool flag) ↔
      Reading.truth? (ofBuiltin .boolean overrides).options value = some flag := by
  rw [cast_ofBuiltin_boolean]
  cases Reading.truth? (ofBuiltin .boolean overrides).options value <;> simp

/-- A text stands for true exactly if its spelling is listed for true, and, unless it equals a text
listed for true up to case and blanks at the ends, for false exactly if its spelling is listed for
false. These texts are the valid ones, and the case of letters A to Z makes no difference. -/
theorem cast_boolean_iff (sound : (Document.object overrides).wellFormed)
    (given : overrides.find? "true_values" = some (.ofStrings trues))
    (denied : overrides.find? "false_values" = some (.ofStrings falses)) (text : String) :
    ((ofBuiltin .boolean overrides).cast (.string text) = .ok (.bool true) ↔
        spelling text ∈ trues) ∧
      ((∀ other ∈ trues, spelling other ≠ spelling text) →
        ((ofBuiltin .boolean overrides).cast (.string text) = .ok (.bool false) ↔
          spelling text ∈ falses)) ∧
      ((ofBuiltin .boolean overrides).validate (.string text) ↔
        spelling text ∈ trues ∨ spelling text ∈ falses) ∧
      ∀ other, lowerAscii other = lowerAscii text →
        (ofBuiltin .boolean overrides).cast (.string other) =
            (ofBuiltin .boolean overrides).cast (.string text) ∧
          (ofBuiltin .boolean overrides).validate (.string other) =
            (ofBuiltin .boolean overrides).validate (.string text) := by
  have read := truth?_ofBuiltin sound given denied
  have validates (text : String) : (ofBuiltin .boolean overrides).validate (.string text) =
      (Reading.truth? (ofBuiltin .boolean overrides).options (.string text)).isSome := rfl
  refine ⟨?_, fun apart => ?_, ?_, fun other same => ?_⟩
  · rw [cast_boolean_eq_ok_iff, read, truthOf?_eq_some_true_iff]
  · rw [cast_boolean_eq_ok_iff, read, truthOf?_eq_some_false_iff apart]
  · rw [validates, read, truthOf?]
    split_ifs <;> simp_all
  · have alike : truthOf? trues falses other = truthOf? trues falses text := by
      rw [truthOf?, truthOf?, spelling_eq_of_lowerAscii_eq same]
    rw [cast_ofBuiltin_boolean, cast_ofBuiltin_boolean, validates, validates, read, read, alike]
    exact ⟨rfl, rfl⟩

/-- Yes is listed for true in capitals alone, so no way to write it stands for true, while no stands for
false in any case and between blanks. -/
theorem cast_boolean_iff_capitals :
    let overrides : Members :=
      [("true_values", .ofStrings ["YES"]), ("false_values", .ofStrings ["no"])]
    let type := ofBuiltin .boolean overrides
    (Document.object overrides).wellFormed ∧
      overrides.find? "true_values" = some (.ofStrings ["YES"]) ∧
      overrides.find? "false_values" = some (.ofStrings ["no"]) ∧
      type.cast (.string "YES") ≠ .ok (.bool true) ∧ ¬type.validate (.string "YES") ∧
      type.cast (.string " no") = .ok (.bool false) ∧
      type.cast (.string " No") = type.cast (.string " no") := by
  intro overrides type
  have sound : (Document.object overrides).wellFormed := by decide
  have given : overrides.find? "true_values" = some (.ofStrings ["YES"]) := rfl
  have denied : overrides.find? "false_values" = some (.ofStrings ["no"]) := rfl
  have yes : spelling "YES" = "yes" := by decide +kernel
  have no : spelling " no" = "no" := by decide +kernel
  obtain ⟨isTrue, -, isValid, -⟩ := cast_boolean_iff sound given denied "YES"
  obtain ⟨-, isFalse, -, anyCase⟩ := cast_boolean_iff sound given denied " no"
  rw [yes] at isTrue isValid
  rw [no] at isFalse
  refine ⟨sound, given, denied, isTrue.not.mpr (by decide), isValid.not.mpr (by decide), ?_,
    (anyCase " No" (by decide)).1⟩
  refine (isFalse ?_).mpr (by decide)
  rw [List.forall_mem_singleton, yes]
  decide

end ValueType

end Intake
