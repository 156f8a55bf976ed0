import Intake.Proofs.Schema.Keyword
import Intake.Schema.Loading

/-! # Faults of an object alone

What the loader reads off an object without looking into the schemas within it is its kind, limits,
annotations and marks. Such reading may find the object malformed, of no kind or of an unknown one,
but it never finds fault with a reference or runs into a limit of the loader.
-/

namespace Intake

/-- The fault is one of the object itself, not of a reference or a limit. -/
def SchemaFault.isLocal (fault : SchemaFault) : Bool :=
  match fault.faultClass with
  | .malformed | .unknownKind | .missingKind => true
  | .unresolvedReference | .cyclicReference | .depthExceeded | .tooLarge => false

/-- Reading fails, if it does, for a fault of the object itself. -/
def FailsLocally {α : Type} (value : Except SchemaFault α) : Prop :=
  ∀ fault, value = .error fault → fault.isLocal

namespace FailsLocally

variable {α β : Type}

private theorem ok (value : α) : FailsLocally (.ok value) := nofun

private theorem error {fault : SchemaFault} (own : fault.isLocal) :
    FailsLocally (.error fault : Except SchemaFault α) := by
  rintro _ ⟨⟩
  exact own

private theorem bind {first : Except SchemaFault α} {next : α → Except SchemaFault β}
    (start : FailsLocally first) (rest : ∀ value, FailsLocally (next value)) :
    FailsLocally (first >>= next) := by
  cases first with
  | ok value => exact rest value
  | error fault => exact error (start fault rfl)

private theorem mapM {step : α → Except SchemaFault β} (items : List α)
    (steps : ∀ item, FailsLocally (step item)) : FailsLocally (items.mapM step) := by
  induction items with
  | nil => exact ok []
  | cons item items ih =>
    rw [List.mapM_cons]
    exact (steps item).bind fun _ => ih.bind fun _ => ok _

end FailsLocally

namespace Keyword

variable {members : Members} {key : String}

theorem optional_failsLocally {α : Type} (read? : Document → Option α) (expected : Expectation) :
    FailsLocally (optional read? expected members key) := by
  rw [optional]
  split
  · exact .ok _
  · split
    · exact .ok _
    · exact .error rfl

private theorem string_failsLocally : FailsLocally (string members key) := optional_failsLocally _ _

private theorem number_failsLocally : FailsLocally (number members key) := optional_failsLocally _ _

theorem count_failsLocally : FailsLocally (count members key) := optional_failsLocally _ _

theorem list_failsLocally : FailsLocally (list members key) := optional_failsLocally _ _

theorem flag_failsLocally : FailsLocally (flag members key) :=
  (optional_failsLocally _ _).bind fun _ => .ok _

private theorem strings_failsLocally (items : List Document) : FailsLocally (strings items key) := by
  refine .mapM items fun item => ?_
  cases item with
  | string value => exact .ok value
  | _ => exact .error rfl

end Keyword

namespace Loader

open Keyword

variable {members : Members}

theorem kindName_failsLocally : FailsLocally (kindName members) := by
  rw [kindName]
  split
  · split
    · exact .ok _
    · exact .error rfl
  · exact .error rfl
  · split_ifs
    · exact .ok _
    · exact .ok _
    · exact .error rfl

theorem stringLimits_failsLocally : FailsLocally (stringLimits members) := by
  have others (pattern : Option String) : FailsLocally (do
      return ({
        format := ← Keyword.string members "format"
        minLength := ← Keyword.count members "minLength"
        maxLength := ← Keyword.count members "maxLength"
        pattern
        mediaType := ← Keyword.string members "contentMediaType"
        encoding := ← Keyword.string members "contentEncoding" } : StringLimits)) :=
    string_failsLocally.bind fun _ => count_failsLocally.bind fun _ => count_failsLocally.bind fun _ =>
      string_failsLocally.bind fun _ => string_failsLocally.bind fun _ => .ok _
  refine string_failsLocally.bind fun pattern => ?_
  cases pattern with
  | none => exact others none
  | some text =>
    cases accepted : Pattern.ofText text with
    | error error => simpa only [accepted] using .error rfl
    | ok pattern => simpa only [accepted] using others (some text)

theorem numberLimits_failsLocally : FailsLocally (numberLimits members) :=
  number_failsLocally.bind fun _ => number_failsLocally.bind fun _ => number_failsLocally.bind fun _ =>
    number_failsLocally.bind fun _ => number_failsLocally.bind fun _ => .ok _

theorem requiredNames_failsLocally : FailsLocally (requiredNames members) := by
  rw [requiredNames]
  split
  · exact strings_failsLocally _
  · exact .ok _

theorem dependencies_failsLocally : FailsLocally (dependencies members) := by
  refine (optional_failsLocally _ _).bind fun declared => ?_
  refine FailsLocally.bind (.mapM _ fun entry => ?_) fun _ => .ok _
  obtain ⟨name, document⟩ := entry
  cases document with
  | array items => exact (strings_failsLocally items).bind fun _ => .ok _
  | _ => exact .error rfl

theorem annotations_failsLocally : FailsLocally (annotations members) :=
  string_failsLocally.bind fun _ => string_failsLocally.bind fun _ => flag_failsLocally.bind fun _ =>
    list_failsLocally.bind fun _ => flag_failsLocally.bind fun _ => flag_failsLocally.bind fun _ =>
      list_failsLocally.bind fun _ => .ok _

theorem requiredMark_failsLocally (kind : KindName) : FailsLocally (requiredMark members kind) := by
  rw [requiredMark]
  split
  · exact .ok _
  · exact .ok _
  · split_ifs
    · exact .ok _
    · exact .error rfl
  · exact .error rfl

end Loader

end Intake
