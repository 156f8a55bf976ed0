import Intake.Proofs.Engine.Meaning
import Intake.Proofs.Format.Name
import Intake.Proofs.ValueType.Canonical
import Intake.Proofs.ValueType.Fragment
import Mathlib.Data.Bool.AllAny

/-! # Types and the rules of their schemas

A type reads texts by itself, and its schema is compiled into rules that the engine carries out. The two
read the formats apart from each other, and take the same texts but for moments and times of day: the
rules know them in one format only, which is the one that the types have by default, while the types
also read moments with an offset and times without seconds.
-/

namespace Intake

open StandardEngine

variable {name text : String} {kind : Kind}

namespace StandardEngine

variable {value : Document} {tokens : List Token}

/-- A value is accepted as it is or not at all. -/
theorem exists_validate_iff :
    (∃ result, validate tokens value = .ok result) ↔ ∀ token ∈ tokens, Passes value token := by
  simp only [validate_eq_ok_iff, complaints_eq_nil_iff]
  exact ⟨fun ⟨_, passes, _⟩ => passes, fun passes => ⟨value, passes, rfl⟩⟩

end StandardEngine

namespace Property

/-- The engine accepts the text by the rules of the schema. -/
def AcceptsText (property : Property) (phonePattern text : String) : Prop :=
  ∃ result, process (.string text) (property.rules phonePattern) = .ok result

/-- A value of another kind than strings is cast and validated, and nothing else happens to it. -/
theorem process_plain (other : kind.name ≠ .string) (phonePattern : String) (value : Document) :
    process value ((Property.plain name kind).rules phonePattern) =
      castKind kind.name value >>= validate ((Property.plain name kind).kindTokens phonePattern) := by
  have sanitize : ((Property.plain name kind).rules phonePattern).sanitize = [] := by
    rw [rules, Property.plain]
    exact if_neg other
  have transform : ((Property.plain name kind).rules phonePattern).transform = [] := by
    cases kind
    case string => exact absurd rfl other
    all_goals rfl
  rw [process, sanitize, transform]
  simp only [filter, List.foldlM_nil, pure_bind]
  rfl

/-- A text is accepted by a string without choices if its normal form passes the tokens. -/
theorem acceptsText_plain_string (limits : StringLimits) (phonePattern text : String) :
    (Property.plain name (.string limits)).AcceptsText phonePattern text ↔
      ∀ token ∈ (Property.plain name (.string limits)).stringTokens phonePattern limits,
        Passes (.string (limits.normalText text)) token := by
  rw [AcceptsText, process_eq_prepare_bind, prepare_rules rfl rfl, ← exists_validate_iff]
  rfl

/-- A text is accepted by a format of its own if its normal form passes the token of the format. -/
theorem acceptsText_ofFormat {format : String} {token : Token}
    (known : Table.formatRule format = .token token) (phonePattern text : String) :
    (Property.plain name (.string (.ofFormat format))).AcceptsText phonePattern text ↔
      Passes (.string ((StringLimits.ofFormat format).normalText text)) token := by
  have tokens : (Property.plain name (.string (.ofFormat format))).stringTokens phonePattern
      (.ofFormat format) = [token] := by
    simp [stringTokens, choiceTokens, formatTokens, limitToken, StringLimits.ofFormat, Property.plain,
      Annotations.none, known]
  rw [acceptsText_plain_string, tokens, List.forall_mem_singleton]

/-- A text of another format than that of mail addresses is accepted if it passes the validator of the
format once it is trimmed. -/
theorem acceptsText_of_passes {format rule : String} {passes : String → Bool} {complaint : Complaint}
    (known : Table.formatRule format = .token (.plain rule))
    (validator : Validator.find? rule = some (Validator.ofString passes complaint))
    (other : format ≠ "email") (notEmpty : ¬passes "") (valid : passes (Text.trim text))
    (phonePattern : String) :
    (Property.plain name (.string (.ofFormat format))).AcceptsText phonePattern text := by
  have filled : Text.trim text ≠ "" := fun empty => notEmpty (empty ▸ valid)
  have normal : (StringLimits.ofFormat format).normalText text = Text.trim text :=
    if_neg fun same => other (Option.some.inj same)
  rw [acceptsText_ofFormat known, normal, passes_ofString_iff filled validator]
  exact valid

/-- A text is accepted as a date or a time of day if it is one in letters once it is trimmed. -/
theorem acceptsText_iff_fits {format letters : String}
    (known : Table.formatRule format = .token (.withArgument "date_format" letters))
    (other : format ≠ "email") (filled : Text.trim text ≠ "") (phonePattern : String) :
    (Property.plain name (.string (.ofFormat format))).AcceptsText phonePattern text ↔
      LetterFormat.Fits letters (Text.trim text) := by
  have normal : (StringLimits.ofFormat format).normalText text = Text.trim text :=
    if_neg fun same => other (Option.some.inj same)
  rw [acceptsText_ofFormat known, normal, passes_dateFormat_iff filled]

end Property

namespace LetterFormat

private theorem fits_iff {letters : String} (f : LetterFormat) (read : ofText letters = .ok f) :
    Fits letters text ↔ f.matchesText text := by
  simp [Fits, read]

private theorem fits_date_iff : Fits "Y-m-d" text ↔ (Date.read? Layout.isoDate text.toList).isSome :=
  fits_iff ⟨Layout.isoDate, [.date, .date, .date]⟩ (by decide)

private theorem fits_moment_iff :
    Fits "Y-m-d H:i:s" text ↔ (DateTime.read? Layout.plainMoment text.toList).isSome :=
  fits_iff ⟨Layout.plainMoment, [.date, .date, .date, .time, .time, .time]⟩ (by decide)

private theorem fits_time_iff : Fits "H:i:s" text ↔ (Time.read? Layout.clock text.toList).isSome :=
  fits_iff ⟨Layout.clock, [.time, .time, .time]⟩ (by decide)

end LetterFormat

namespace ValueType

open Property

variable (phonePattern : String)

private theorem acceptsText_email
    (valid : validateBuiltin .email BuiltinType.email.defaultOptions (.string text)) :
    (Property.plain name (.string (.ofFormat "email"))).AcceptsText phonePattern text := by
  have mail : Email.isValid (Text.trim text) := by
    simpa [validateBuiltin, Reading.email?, Reading.trimmed?, Document.string?] using valid
  have lowered := Email.isValid_lower mail
  have normal : (StringLimits.ofFormat "email").normalText text = Text.lower (Text.trim text) :=
    if_pos rfl
  have filled : Text.lower (Text.trim text) ≠ "" := by
    have notEmpty : ¬Email.isValid "" := by decide
    exact fun empty => notEmpty (empty ▸ lowered)
  have validator : Validator.find? "email" = some (Validator.ofString Email.isValid .notAnEmail) := rfl
  have known : Table.formatRule "email" = .token (.plain "email") := rfl
  rw [acceptsText_ofFormat known, normal, passes_ofString_iff filled validator]
  exact lowered

private theorem acceptsText_url
    (valid : validateBuiltin .url BuiltinType.url.defaultOptions (.string text)) :
    (Property.plain name (.string (.ofFormat "uri"))).AcceptsText phonePattern text := by
  have address : Url.isValid (Text.trim text) := by
    rw [Url.isValid]
    cases stands : Url.scheme? (Text.trim text) with
    | none => simp [validateBuiltin, Reading.url?, Reading.trimmed?, Document.string?, stands] at valid
    | some scheme => rfl
  have validator : Validator.find? "url" = some (Validator.ofString Url.isValid .notAUrl) := rfl
  exact acceptsText_of_passes rfl validator (by decide) (by decide) address phonePattern

/-- A host name has no blanks to be trimmed. -/
theorem acceptsText_hostname
    (valid : validateBuiltin .hostname BuiltinType.hostname.defaultOptions (.string text)) :
    (Property.plain name (.string (.ofFormat "hostname"))).AcceptsText phonePattern text := by
  have host : Hostname.isValid text := by
    simpa [validateBuiltin, Reading.hostname?, Document.string?] using valid
  have trimmed : Text.trim text = text := by
    rw [Hostname.isValid, Bool.and_eq_true] at host
    exact Text.trim_eq_self_iff.mpr (Text.isTrimmed_of_isPrintable (Hostname.isPrintable_of_mem host.2))
  have validator : Validator.find? "hostname" = some (Validator.ofString Hostname.isValid .notAHostname) :=
    rfl
  exact acceptsText_of_passes rfl validator (by decide) (by decide) (trimmed.symm ▸ host) phonePattern

private theorem acceptsText_uuid
    (valid : validateBuiltin .uuid BuiltinType.uuid.defaultOptions (.string text)) :
    (Property.plain name (.string (.ofFormat "uuid"))).AcceptsText phonePattern text := by
  have known : (Uuid.ofText? (Text.trim text)).isSome := by
    cases read : Uuid.ofText? (Text.trim text) with
    | none => simp [validateBuiltin, Reading.uuid?, Reading.trimmed?, Document.string?, read] at valid
    | some uuid => rfl
  have validator : Validator.find? "uuid" =
      some (Validator.ofString (fun text => (Uuid.ofText? text).isSome) .notAUuid) := rfl
  exact acceptsText_of_passes rfl validator (by decide) (by decide) known phonePattern

/-- A date is accepted. -/
theorem acceptsText_date (valid : validateBuiltin .date BuiltinType.date.defaultOptions (.string text)) :
    (Property.plain name (.string (.ofFormat "date"))).AcceptsText phonePattern text := by
  have read : (Date.read? Layout.isoDate (Text.trim text).toList).isSome := by
    have taken : (Reading.date? BuiltinType.date.defaultOptions (.string text)).isSome := valid
    rw [Reading.date?, Reading.trimmed?, Document.string?, Option.map_some, Option.bind_some,
      layout_date] at taken
    exact taken
  have filled : Text.trim text ≠ "" := by
    have notEmpty : ¬(Date.read? Layout.isoDate "".toList).isSome := by decide
    exact fun empty => notEmpty (empty ▸ read)
  have known : Table.formatRule "date" = .token (.withArgument "date_format" "Y-m-d") := rfl
  rw [acceptsText_iff_fits known (by decide) filled, LetterFormat.fits_date_iff]
  exact read

/-- A moment is accepted if it has no offset. -/
theorem acceptsText_moment_iff
    (valid : validateBuiltin .datetime BuiltinType.datetime.defaultOptions (.string text)) :
    (Property.plain name (.string (.ofFormat "date-time"))).AcceptsText phonePattern text ↔
      (DateTime.read? Layout.plainMoment (Text.trim text).toList).isSome := by
  have filled : Text.trim text ≠ "" := by
    intro empty
    have taken : (Reading.moment? BuiltinType.datetime.defaultOptions (.string text)).isSome := valid
    rw [Reading.moment?, Reading.trimmed?, Document.string?, Option.map_some, Option.bind_some, empty,
      layout_moment] at taken
    exact absurd taken (by decide)
  have known : Table.formatRule "date-time" = .token (.withArgument "date_format" "Y-m-d H:i:s") := rfl
  rw [acceptsText_iff_fits known (by decide) filled, LetterFormat.fits_moment_iff]

/-- A time of day is accepted if its seconds are given. -/
theorem acceptsText_time_iff
    (valid : validateBuiltin .time BuiltinType.time.defaultOptions (.string text)) :
    (Property.plain name (.string (.ofFormat "time"))).AcceptsText phonePattern text ↔
      (Time.read? Layout.clock (Text.trim text).toList).isSome := by
  have filled : Text.trim text ≠ "" := by
    intro empty
    have taken : (Reading.time? BuiltinType.time.defaultOptions (.string text)).isSome := valid
    rw [Reading.time?, Reading.trimmed?, Document.string?, Option.map_some, Option.bind_some, empty,
      layout_time] at taken
    exact absurd taken (by decide)
  have known : Table.formatRule "time" = .token (.withArgument "date_format" "H:i:s") := rfl
  rw [acceptsText_iff_fits known (by decide) filled, LetterFormat.fits_time_iff]

private theorem acceptsText_text :
    (Property.plain name (.string ⟨none, none, none, none, none, none⟩)).AcceptsText phonePattern text := by
  rw [acceptsText_plain_string]
  exact List.forall_mem_nil _

/-- A blank text is no number and no truth value. -/
theorem not_isBlankText (filled : Text.trimChars text.toList ≠ []) : Cast.isBlank (.string text) = false :=
  Bool.eq_false_iff.mpr fun blank => filled (Text.trimChars_of_isBlankText blank)

private theorem acceptsText_integer
    (valid : validateBuiltin .integer BuiltinType.integer.defaultOptions (.string text)) :
    (Property.plain name (.integer .none)).AcceptsText phonePattern text := by
  have taken : isInteger (.string text) := valid
  simp only [isInteger, Bool.and_eq_true, Option.isSome_iff_exists] at taken
  obtain ⟨run, whole, read⟩ := taken
  have filled : Text.trimChars text.toList ≠ [] := fun empty => by simp [empty, Text.isDigitRun] at run
  have casts : castKind .integer (.string text) = .ok (.ofInt whole) := by
    rw [castKind_integer, Cast.integer, not_isBlankText filled, Cast.integer?, Cast.textInteger?, read]
    rfl
  rw [AcceptsText, process_plain (by decide)]
  exact ⟨.ofInt whole, by rw [Kind.name, casts]; rfl⟩

private theorem acceptsText_float
    (valid : validateBuiltin .float BuiltinType.float.defaultOptions (.string text)) :
    (Property.plain name (.number .none)).AcceptsText phonePattern text := by
  have taken : (Text.number? text).isSome := valid
  obtain ⟨number, read⟩ := Option.isSome_iff_exists.mp taken
  have filled : Text.trimChars text.toList ≠ [] := by
    intro empty
    rw [Text.number?, empty] at read
    cases read
  have casts : castKind .number (.string text) = .ok (.number (.real number)) := by
    rw [castKind_number, Cast.real, not_isBlankText filled, Cast.real?, read]
    rfl
  rw [AcceptsText, process_plain (by decide)]
  exact ⟨.number (.real number), by rw [Kind.name, casts]; rfl⟩

/-- The words that mean a truth value by default. -/
def truthWords : List String := ["true", "yes", "on", "false", "no", "off"]

private theorem mem_truthWords
    (valid : validateBuiltin .boolean BuiltinType.boolean.defaultOptions (.string text)) :
    Text.lower (Text.trim text) ∈ truthWords := by
  have trueValues : Options.texts BuiltinType.boolean.defaultOptions "true_values" =
      ["true", "yes", "on"] := rfl
  have falseValues : Options.texts BuiltinType.boolean.defaultOptions "false_values" =
      ["false", "no", "off"] := rfl
  have taken : (Reading.truth? BuiltinType.boolean.defaultOptions (.string text)).isSome := valid
  rw [Reading.truth?, trueValues, falseValues] at taken
  rw [truthWords]
  split_ifs at taken with means means
  · exact List.mem_append_left ["false", "no", "off"] (List.contains_iff_mem.mp means)
  · exact List.mem_append_right ["true", "yes", "on"] (List.contains_iff_mem.mp means)
  · cases taken

/-- The type tells words by the lower case of any letters and the engine by that of the letters A to Z;
for the words that mean a truth value this makes no difference. -/
theorem acceptsText_boolean
    (valid : validateBuiltin .boolean BuiltinType.boolean.defaultOptions (.string text)) :
    (Property.plain name .boolean).AcceptsText phonePattern text := by
  have word := mem_truthWords valid
  have filled : Text.trimChars text.toList ≠ [] := by
    intro empty
    rw [Text.trim, empty] at word
    revert word
    decide
  have known : ∀ word ∈ truthWords, word.toList.all (Text.IsPlain ·) ∧
      (Cast.trueWords.contains word ∨ Cast.falseWords.contains word) :=
    List.all_iff_forall_prop.mp (by decide)
  obtain ⟨plain, means⟩ := known _ word
  rw [Text.lower_eq_lowerAscii (List.all_iff_forall_prop.mp plain)] at means
  obtain ⟨flag, read⟩ : ∃ flag, Cast.textTruth? text = some flag := by
    rw [Cast.textTruth?]
    split_ifs with isTrue isFalse
    · exact ⟨_, rfl⟩
    · exact ⟨_, rfl⟩
    · exact absurd means (not_or.mpr ⟨isTrue, isFalse⟩)
  have casts : castKind .boolean (.string text) = .ok (.bool flag) := by
    rw [castKind_boolean, Cast.truth, not_isBlankText filled, Cast.truth?, read]
    rfl
  rw [AcceptsText, process_plain (by decide)]
  exact ⟨.bool flag, by rw [Kind.name, casts]; rfl⟩

/-- A moment is written without an offset and a time of day with its seconds, each in the format that
its type has by default. A text of another type has one form only. -/
def IsInDefaultFormat (type : BuiltinType) (text : String) : Prop :=
  match type with
  | .datetime =>
    (DateTime.read? (.ofText (BuiltinType.defaultFormat .datetime)) (Text.trim text).toList).isSome
  | .time => (Time.read? (.ofText (BuiltinType.defaultFormat .time)) (Text.trim text).toList).isSome
  | _ => True

/-- Where a type describes itself by a schema that is loaded, the rules of the schema accept the texts that
the type takes, except for moments and times of day that are not in the default format. -/
theorem acceptsText_iff {type : BuiltinType} {path : String} {property : Property}
    (loads : Loader.standard.outcome name path (.object (ofBuiltin type []).fragment) = .ok property)
    (valid : (ofBuiltin type []).validate (.string text)) :
    property.AcceptsText phonePattern text ↔ IsInDefaultFormat type text := by
  rw [validate_ofBuiltin] at valid
  have plain {kind : Kind} (tells : (ofBuiltin type []).kind? = some kind) :
      property = .plain name kind := by
    cases loads.symm.trans (outcome_fragment_of_kind? (.builtin type []) tells (by decide) name path)
    rfl
  have always {kind : Kind} (tells : (ofBuiltin type []).kind? = some kind)
      (accepts : (Property.plain name kind).AcceptsText phonePattern text) :
      property.AcceptsText phonePattern text ↔ True := by
    rw [plain tells]
    exact iff_true_intro accepts
  cases type with
  | text => exact always rfl (acceptsText_text phonePattern)
  | email => exact always rfl (acceptsText_email phonePattern valid)
  | url => exact always rfl (acceptsText_url phonePattern valid)
  | hostname => exact always rfl (acceptsText_hostname phonePattern valid)
  | uuid => exact always rfl (acceptsText_uuid phonePattern valid)
  | ip =>
    have leaves : (ofBuiltin .ip []).LeavesVersionOpen := ⟨rfl, by decide, by decide⟩
    cases loads.symm.trans (outcome_fragment_of_leavesVersionOpen leaves name path)
  | date => exact always rfl (acceptsText_date phonePattern valid)
  | datetime =>
    have layout : Layout.ofText (BuiltinType.defaultFormat .datetime) = Layout.plainMoment := layout_moment
    rw [plain rfl, acceptsText_moment_iff phonePattern valid, IsInDefaultFormat, layout]
  | time =>
    have layout : Layout.ofText (BuiltinType.defaultFormat .time) = Layout.clock := layout_time
    rw [plain rfl, acceptsText_time_iff phonePattern valid, IsInDefaultFormat, layout]
  | integer => exact always rfl (acceptsText_integer phonePattern valid)
  | float => exact always rfl (acceptsText_float phonePattern valid)
  | boolean => exact always rfl (acceptsText_boolean phonePattern valid)
  | array => cases valid
  | object => cases valid

/-- A moment with blanks around it is accepted in the default format, and with an offset it is not. -/
theorem acceptsText_moment :
    let schema : Document := .object (ofBuiltin .datetime []).fragment
    let property : Property := .plain "at" (.string (.ofFormat "date-time"))
    Loader.standard.outcome "at" "#" schema = .ok property ∧
      (ofBuiltin .datetime []).validate (.string " 2024-01-01 10:00:00 ") ∧
      (ofBuiltin .datetime []).validate (.string "2024-01-01T10:00:00Z") ∧
      property.AcceptsText Config.default.phonePattern " 2024-01-01 10:00:00 " ∧
      ¬property.AcceptsText Config.default.phonePattern "2024-01-01T10:00:00Z" := by
  intro schema property
  have loads : Loader.standard.outcome "at" "#" schema = .ok property := rfl
  have plain : (ofBuiltin .datetime []).validate (.string " 2024-01-01 10:00:00 ") := by decide +kernel
  have zoned : (ofBuiltin .datetime []).validate (.string "2024-01-01T10:00:00Z") := by decide +kernel
  have inFormat : IsInDefaultFormat .datetime " 2024-01-01 10:00:00 " := by
    rw [IsInDefaultFormat]
    decide +kernel
  have notInFormat : ¬IsInDefaultFormat .datetime "2024-01-01T10:00:00Z" := by
    rw [IsInDefaultFormat]
    decide +kernel
  exact ⟨loads, plain, zoned, (acceptsText_iff _ loads plain).mpr inFormat,
    (acceptsText_iff _ loads zoned).not.mpr notInFormat⟩

/-- A time of day without seconds is one of its type, and the rules of the schema refuse it. -/
theorem not_acceptsText_time :
    let schema : Document := .object (ofBuiltin .time []).fragment
    let property : Property := .plain "at" (.string (.ofFormat "time"))
    Loader.standard.outcome "at" "#" schema = .ok property ∧
      (ofBuiltin .time []).validate (.string "08:15") ∧
      ¬property.AcceptsText Config.default.phonePattern "08:15" := by
  intro schema property
  have valid : (ofBuiltin .time []).validate (.string "08:15") := by decide +kernel
  have seconds : ¬(Time.read? Layout.clock (Text.trim "08:15").toList).isSome := by decide +kernel
  rw [validate_ofBuiltin] at valid
  refine ⟨rfl, valid, ?_⟩
  rw [acceptsText_time_iff _ valid]
  exact seconds

end ValueType

end Intake
