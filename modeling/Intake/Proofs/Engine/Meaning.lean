import Intake.Proofs.Engine.Executable
import Intake.Proofs.Engine.Preparation
import Intake.Proofs.Schema.Loading

/-! # What the schema of a string means

A schema is compiled into tokens, and the engine carries these out one by one. For a string without
choices the outcome can be told from its limits alone: a list or an object is invalid, and any other
value stands for null or for a text, which is accepted if it is left empty and not required, or if it
keeps every limit. The specification below does not speak of tokens, tables or phases.
-/

namespace Intake

/-- The text is a date, a time or both, written in letters that tell its parts. -/
def LetterFormat.Fits (letters text : String) : Prop :=
  ∃ format, ofText letters = .ok format ∧ format.matchesText text

/-- The text is one of a format. Telephone numbers are told by a pattern, and any text is one of a
format that is not known. -/
def IsOfFormat (phone : Pattern) (format text : String) : Prop :=
  match format with
  | "email" => Email.isValid text
  | "uri" => Url.isValid text
  | "url" => Url.isValid text
  | "date" => LetterFormat.Fits "Y-m-d" text
  | "date-time" => LetterFormat.Fits "Y-m-d H:i:s" text
  | "time" => LetterFormat.Fits "H:i:s" text
  | "tel" => phone.isFoundIn text
  | "hostname" => Hostname.isValid text
  | "ipv4" => (Address.ofText? text).isSome
  | "ipv6" => (Address.ofText? text).isSome
  | "uuid" => (Uuid.ofText? text).isSome
  | "base64" => Base64.isValid text.toList
  | "json" => (Document.ofText? text).isSome
  | _ => True

namespace StringLimits

/-- The text keeps every limit that is set. -/
structure Admits (limits : StringLimits) (phone : Pattern) (text : String) : Prop where
  minLength : ∀ least ∈ limits.minLength, least ≤ text.length
  maxLength : ∀ most ∈ limits.maxLength, text.length ≤ most
  format : ∀ format ∈ limits.format, IsOfFormat phone format text
  pattern : ∀ source ∈ limits.pattern,
    ∃ pattern, Pattern.ofText source = .ok pattern ∧ pattern.isFoundIn text
  mediaType : ∀ mediaType ∈ limits.mediaType,
    mediaType = "application/json" ∨ mediaType = "text/json" → (Document.ofText? text).isSome

/-- A text without blanks at its ends, and in lower case if it is a mail address. -/
def normalText (limits : StringLimits) (text : String) : String :=
  if limits.format = some "email" then Text.lower (Text.trim text) else Text.trim text

/-- What a value stands for: null for itself and another scalar for its text. Lists and objects stand
for nothing. -/
def valueOf? (limits : StringLimits) : Document → Option Document
  | .null => some .null
  | .string text => some (.string (limits.normalText text))
  | .number number => some (.string (limits.normalText number.text))
  | .bool flag => some (.string (limits.normalText (Cast.boolText flag)))
  | .array _ => none
  | .object _ => none

/-- The value is left empty and not required, or it is a text that keeps the limits. -/
def Accepts (limits : StringLimits) (phone : Pattern) (required : Bool) (value : Document) : Prop :=
  (value = .null ∨ value = .string "") ∧ required = false ∨
    ∃ text, value = .string text ∧ text ≠ "" ∧ limits.Admits phone text

end StringLimits

namespace Validator

variable {text : String}

theorem complainUnless_eq_none_iff {passes : Bool} {complaint : Complaint} :
    complainUnless passes complaint = none ↔ passes := by
  cases passes <;> simp [complainUnless]

theorem ofString_passes_iff {passes : String → Bool} {complaint : Complaint}
    {argument? : Option String} :
    ofString passes complaint argument? (.string text) = .ok none ↔ passes text := by
  rw [ofString, plain, Except.ok.injEq, complainUnless_eq_none_iff]
  rfl

private theorem length_passes_iff {rule : String} {fits : Nat → Nat → Bool}
    {complaint : Nat → Complaint} {n : Nat} (sound : IsCount n) :
    length rule fits complaint (some n.repr) (.string text) = .ok none ↔ fits text.length n := by
  rw [length, countArgument_repr rule sound]
  change Except.ok (complainUnless (fits text.length n) (complaint n)) = .ok none ↔ _
  rw [Except.ok.injEq, complainUnless_eq_none_iff]

private theorem pattern_passes_iff {source : String} :
    pattern (some source) (.string text) = .ok none ↔
      ∃ compiled, Pattern.ofText source = .ok compiled ∧ compiled.isFoundIn text := by
  cases compiles : Pattern.ofText source with
  | error error =>
    simp [pattern, argument, compiles, bind, Except.bind, throw, throwThe, MonadExceptOf.throw]
  | ok compiled =>
    simp [pattern, argument, compiles, bind, Except.bind, pure, Except.pure, scalarText?,
      complainUnless_eq_none_iff]

private theorem dateFormat_passes_iff {letters : String} :
    dateFormat (some letters) (.string text) = .ok none ↔ LetterFormat.Fits letters text := by
  cases read : LetterFormat.ofText letters with
  | error fault =>
    simp [dateFormat, argument, read, LetterFormat.Fits, bind, Except.bind, throw, throwThe,
      MonadExceptOf.throw]
  | ok format =>
    simp [dateFormat, argument, read, LetterFormat.Fits, bind, Except.bind, pure, Except.pure,
      Document.string?, complainUnless_eq_none_iff]

end Validator

namespace StandardEngine

/-- The value is validated by the token without complaint. -/
def Passes (value : Document) (token : Token) : Prop := validateBy value token = .ok none

theorem complaints_eq_nil_iff {tokens : List Token} {value : Document} :
    complaints tokens value = .ok [] ↔ ∀ token ∈ tokens, Passes value token := by
  rw [complaints, except_bind_eq_ok]
  constructor
  · rintro ⟨verdicts, traversed, nothing⟩
    have silent : verdicts.filterMap id = [] := Except.ok.inj nothing
    rw [except_mapM_eq_ok] at traversed
    clear nothing
    induction traversed with
    | nil => exact List.forall_mem_nil _
    | @cons token verdict tokens verdicts first _ ih =>
      cases verdict with
      | none => exact List.forall_mem_cons.mpr ⟨first, ih (by simpa using silent)⟩
      | some complaint => simp at silent
  · intro passes
    refine ⟨tokens.map fun _ => none, except_mapM_eq_ok.mpr ?_, by simp [pure, Except.pure]⟩
    rw [List.forall₂_map_right_iff, List.forall₂_same]
    exact passes

/-- Tokens that can be carried out either all pass a value or complain about it. -/
theorem validate_outcome {tokens : List Token} (run : ∀ token ∈ tokens, token.Runs)
    (value : Document) :
    (validate tokens value = .ok value ↔ ∀ token ∈ tokens, Passes value token) ∧
      (validate tokens value ≠ .ok value →
        ∃ messages, messages ≠ [] ∧ validate tokens value = .error (.invalid messages)) := by
  refine ⟨?_, fun refused => ?_⟩
  · rw [validate_eq_ok_iff, complaints_eq_nil_iff]
    exact and_iff_left rfl
  · rw [validate] at refused ⊢
    cases found : complaints tokens value with
    | error fault =>
      have faultless : ∀ token ∈ tokens, ∀ other, validateBy value token = .error other →
          other = fault := fun token member _ stops => absurd stops (Token.not_fault (run token member))
      obtain ⟨-, token, member, stops⟩ :=
        (except_mapM_eq_error faultless).mp (complaints_eq_error.mp found)
      exact absurd stops (Token.not_fault (run token member))
    | ok complaints =>
      rw [found] at refused
      cases complaints with
      | nil => exact absurd rfl refused
      | cons complaint others => exact ⟨_, List.cons_ne_nil _ _, rfl⟩

variable {value : Document} {token : Token} {text : String}

theorem passes_iff_of_find? {validator : Validator}
    (known : Validator.find? token.name = some validator) (filled : ¬isEmptyInput value) :
    Passes value token ↔ validator token.argument? value = .ok none := by
  rw [Passes, validateBy, known]
  simp [filled]

theorem passes_presence_iff : Passes value (.plain presenceRule) ↔ Validator.isPresent value := by
  change Except.ok (Validator.complainUnless (Validator.isPresent value) .missing) = .ok none ↔ _
  rw [Except.ok.injEq, Validator.complainUnless_eq_none_iff]

/-- An empty value passes every token but the one of presence. -/
theorem passes_of_isEmptyInput (runs : token.Runs) (other : token.name ≠ presenceRule)
    (empty : isEmptyInput value) : Passes value token := by
  obtain ⟨complaint?, passes⟩ := runs value
  rw [validateBy] at passes
  rw [Passes, validateBy]
  cases known : Validator.find? token.name with
  | none =>
    rw [known] at passes
    cases passes
  | some validator => simp [other, empty]

section Texts

variable (filled : text ≠ "")
include filled

private theorem not_isEmptyInput_string : ¬isEmptyInput (.string text) := by
  simpa [isEmptyInput] using filled

theorem passes_ofString_iff {name : String} {passes : String → Bool} {complaint : Complaint}
    (known : Validator.find? name = some (Validator.ofString passes complaint)) :
    Passes (.string text) (.plain name) ↔ passes text := by
  rw [passes_iff_of_find? known (not_isEmptyInput_string filled), Validator.ofString_passes_iff]

private theorem passes_length_iff {rule : String} {fits : Nat → Nat → Bool}
    {complaint : Nat → Complaint}
    (known : Validator.find? rule = some (Validator.length rule fits complaint)) {n : Nat}
    (sound : IsCount n) :
    Passes (.string text) (.withArgument rule n.repr) ↔ fits text.length n := by
  rw [passes_iff_of_find? known (not_isEmptyInput_string filled), Token.withArgument,
    Validator.length_passes_iff sound]

private theorem passes_string : Passes (.string text) (.plain "string") := by
  rw [passes_iff_of_find? rfl (not_isEmptyInput_string filled)]
  rfl

private theorem passes_pattern_iff {source : String} :
    Passes (.string text) (.withArgument "regex" source) ↔
      ∃ compiled, Pattern.ofText source = .ok compiled ∧ compiled.isFoundIn text := by
  rw [passes_iff_of_find? rfl (not_isEmptyInput_string filled), Token.withArgument]
  exact Validator.pattern_passes_iff

theorem passes_dateFormat_iff {letters : String} :
    Passes (.string text) (.withArgument "date_format" letters) ↔ LetterFormat.Fits letters text := by
  rw [passes_iff_of_find? rfl (not_isEmptyInput_string filled), Token.withArgument]
  exact Validator.dateFormat_passes_iff

end Texts

end StandardEngine

namespace Property

open StandardEngine

variable {property : Property} {limits : StringLimits} {phonePattern text : String} {phone : Pattern}
  {value : Document}

theorem limitToken_pass_iff {name : String} {argument? : Option String} :
    (∀ token ∈ limitToken name argument?, Passes value token) ↔
      ∀ argument ∈ argument?, Passes value (.withArgument name argument) := by
  simp only [mem_limitToken]
  constructor
  · exact fun passes argument given => passes _ ⟨argument, given, rfl⟩
  · rintro passes _ ⟨argument, given, rfl⟩
    exact passes argument given

private theorem formatTokens_pass_iff (filled : text ≠ "")
    (compiles : Pattern.ofText phonePattern = .ok phone) (format : String) :
    (∀ token ∈ formatTokens phonePattern (some format), Passes (.string text) token) ↔
      IsOfFormat phone format text := by
  have plain {name : String} {passes : String → Bool} {complaint : Complaint}
      (compiled : formatTokens phonePattern (some format) = [.plain name])
      (known : Validator.find? name = some (Validator.ofString passes complaint)) :
      (∀ token ∈ formatTokens phonePattern (some format), Passes (.string text) token) ↔
        passes text := by
    rw [compiled, List.forall_mem_singleton, passes_ofString_iff filled known]
  have dated {letters : String}
      (compiled : formatTokens phonePattern (some format) = [.withArgument "date_format" letters]) :
      (∀ token ∈ formatTokens phonePattern (some format), Passes (.string text) token) ↔
        LetterFormat.Fits letters text := by
    rw [compiled, List.forall_mem_singleton, passes_dateFormat_iff filled]
  unfold IsOfFormat
  split
  · exact plain rfl rfl
  · exact plain rfl rfl
  · exact plain rfl rfl
  · exact dated rfl
  · exact dated rfl
  · exact dated rfl
  · have compiled : formatTokens phonePattern (some "tel") = [.withArgument "regex" phonePattern] := rfl
    rw [compiled, List.forall_mem_singleton, passes_pattern_iff filled]
    simp [compiles]
  · exact plain rfl rfl
  · exact plain rfl rfl
  · exact plain rfl rfl
  · exact plain rfl rfl
  · exact plain rfl rfl
  · exact plain rfl rfl
  · next email uri url date dateTime time tel hostname ipv4 ipv6 uuid base64 json =>
    -- A format outside the table asks for no more than a string.
    have unknown : Table.find? Table.formatRules format = none := by
      simp [Table.find?, Table.formatRules, Ne.symm email, Ne.symm uri, Ne.symm url, Ne.symm date,
        Ne.symm dateTime, Ne.symm time, Ne.symm tel, Ne.symm hostname, Ne.symm ipv4, Ne.symm ipv6,
        Ne.symm uuid, Ne.symm base64, Ne.symm json]
    have compiled : formatTokens phonePattern (some format) = [.plain "string"] := by
      simp [formatTokens, Table.formatRule, unknown]
    rw [compiled, List.forall_mem_singleton, iff_true]
    exact passes_string filled

private theorem mediaTypeToken_passes_iff (filled : text ≠ "") (mediaType : String) :
    Passes (.string text) (.plain (Table.mediaTypeValidator mediaType)) ↔
      (mediaType = "application/json" ∨ mediaType = "text/json" →
        (Document.ofText? text).isSome) := by
  have known : Validator.find? "json" = some (Validator.ofString
      (fun text => (Document.ofText? text).isSome) .notADocument) := rfl
  have json := passes_ofString_iff filled known
  by_cases application : mediaType = "application/json"
  · have tabled : Table.mediaTypeValidator "application/json" = "json" := rfl
    simp [application, tabled, json]
  · by_cases plain : mediaType = "text/json"
    · have tabled : Table.mediaTypeValidator "text/json" = "json" := rfl
      simp [plain, tabled, json]
    · have unknown : Table.mediaTypeValidator mediaType = "string" := by
        simp [Table.mediaTypeValidator, Table.find?, Table.mediaTypeValidators, Ne.symm application,
          Ne.symm plain]
      simp [unknown, passes_string filled, application, plain]

/-- The tokens of a string without choices are passed by the texts that keep its limits. -/
theorem stringTokens_pass_iff (sound : limits.Sound) (free : property.annotations.choices = none)
    (compiles : Pattern.ofText phonePattern = .ok phone) (filled : text ≠ "") :
    (∀ token ∈ property.stringTokens phonePattern limits, Passes (.string text) token) ↔
      limits.Admits phone text := by
  have shortest : Validator.find? "min_length" =
      some (Validator.length "min_length" (fun length least => least ≤ length) .tooShort) := rfl
  have longest : Validator.find? "max_length" =
      some (Validator.length "max_length" (fun length most => length ≤ most) .tooLong) := rfl
  have least {n : Nat} (given : n ∈ limits.minLength) :
      Passes (.string text) (.withArgument "min_length" n.repr) ↔ n ≤ text.length :=
    (passes_length_iff filled shortest (sound.minLength n given)).trans decide_eq_true_iff
  have most {n : Nat} (given : n ∈ limits.maxLength) :
      Passes (.string text) (.withArgument "max_length" n.repr) ↔ text.length ≤ n :=
    (passes_length_iff filled longest (sound.maxLength n given)).trans decide_eq_true_iff
  have formats : (∀ token ∈ formatTokens phonePattern limits.format, Passes (.string text) token) ↔
      ∀ format ∈ limits.format, IsOfFormat phone format text := by
    cases limits.format with
    | none => simp [formatTokens]
    | some format => simpa using formatTokens_pass_iff filled compiles format
  have unchosen : property.choiceTokens = [] := by
    rw [choiceTokens, free]
    rfl
  have media : (∀ token ∈ (limits.mediaType.map fun mediaType =>
        Token.plain (Table.mediaTypeValidator mediaType)).toList, Passes (.string text) token) ↔
      ∀ mediaType ∈ limits.mediaType, mediaType = "application/json" ∨ mediaType = "text/json" →
        (Document.ofText? text).isSome := by
    cases limits.mediaType with
    | none => simp
    | some mediaType => simpa using mediaTypeToken_passes_iff filled mediaType
  rw [stringTokens, unchosen, List.append_nil]
  simp only [List.forall_mem_append, limitToken_pass_iff, Option.forall_mem_map, formats, media]
  constructor
  · rintro ⟨⟨⟨⟨short, long⟩, format⟩, pattern⟩, mediaType⟩
    exact {
      minLength := fun n given => (least given).mp (short n given)
      maxLength := fun n given => (most given).mp (long n given)
      format
      pattern := fun source given => (passes_pattern_iff filled).mp (pattern source given)
      mediaType }
  · rintro ⟨short, long, format, pattern, mediaType⟩
    refine ⟨⟨⟨⟨fun n given => ?_, fun n given => ?_⟩, format⟩, fun source given => ?_⟩, mediaType⟩
    · exact (least given).mpr (short n given)
    · exact (most given).mpr (long n given)
    · exact (passes_pattern_iff filled).mpr (pattern source given)

/-- Whatever the kind of a schema, its limits are no demand that there be a value. -/
theorem name_ne_of_mem_kindTokens {token : Token} (member : token ∈ property.kindTokens phonePattern) :
    token.name ≠ presenceRule := by
  have others : ∀ name ∈ Table.limitNames, name ≠ presenceRule := by decide
  exact others _ (property.kindTokens_name_mem phonePattern token member)

/-- A normal value passes the tokens of a string without choices exactly if its schema accepts it. -/
theorem rules_pass_iff (kind : property.kind = .string limits) (sound : limits.Sound)
    (free : property.annotations.choices = none) (compiles : Pattern.ofText phonePattern = .ok phone)
    (normal : value = .null ∨ ∃ text, value = .string text ∧ Text.IsTrimmed text.toList) :
    (∀ token ∈ (property.rules phonePattern).validate, Passes value token) ↔
      limits.Accepts phone property.required value := by
  have accepted : Pattern.isAccepted phonePattern := Loader.pattern_accepted_iff.mpr ⟨phone, compiles⟩
  have runs := stringTokens_run sound accepted property
  have compiled : property.kindTokens phonePattern = property.stringTokens phonePattern limits := by
    rw [kindTokens, kind]
  have tokens : (∀ token ∈ (property.rules phonePattern).validate, Passes value token) ↔
      (property.required → Passes value (.plain presenceRule)) ∧
        ∀ token ∈ property.stringTokens phonePattern limits, Passes value token := by
    rw [rules, compiled, List.forall_mem_append]
    refine and_congr_left fun _ => ?_
    cases property.required <;> simp [presenceRule]
  have left (empty : value = .null ∨ value = .string "") :
      (∀ token ∈ (property.rules phonePattern).validate, Passes value token) ↔
        property.required = false := by
    have input : isEmptyInput value ∧ ¬Validator.isPresent value := by
      rcases empty with rfl | rfl <;> decide
    have passed : ∀ token ∈ property.stringTokens phonePattern limits, Passes value token :=
      fun token member => passes_of_isEmptyInput (runs token member)
        (name_ne_of_mem_kindTokens (compiled ▸ member)) input.1
    rw [tokens, passes_presence_iff, and_iff_left passed]
    simp [input.2]
  rcases normal with rfl | ⟨text, rfl, trimmed⟩
  · simp [left, StringLimits.Accepts]
  · by_cases filled : text = ""
    · subst filled
      simp [left, StringLimits.Accepts]
    · have present : Validator.isPresent (.string text) := by
        simpa [Validator.isPresent] using Text.not_isBlankText_of_isTrimmed trimmed filled
      rw [tokens, passes_presence_iff, stringTokens_pass_iff sound free compiles filled]
      simp [present, filled, StringLimits.Accepts]

end Property

namespace StandardEngine

variable {property : Property} {limits : StringLimits} {phonePattern : String}

/-- Casting and filtering bring a value into the form that the limits of its string ask for. -/
theorem prepare_rules (kind : property.kind = .string limits)
    (free : property.annotations.choices = none) (raw : Document) :
    prepare (property.rules phonePattern) raw =
      match limits.valueOf? raw with
      | some value => .ok value
      | none => .error (.ofComplaint .notAString) := by
  have cast : (property.rules phonePattern).cast? = (Table.cast? .string).map .plain := by
    simp [Property.rules, kind, Kind.name]
  have sanitize : (property.rules phonePattern).sanitize = [.plain "trim"] := by
    simp [Property.rules, kind, Kind.name]
  have transform : (property.rules phonePattern).transform =
      if decide (limits.format = some "email") then [.plain "lowercase"] else [] := by
    simp [Property.rules, kind, Kind.format?, free]
  have trims (value : Document) :
      filter .sanitize [.plain "trim"] value = .ok (Filter.apply Text.trim value) :=
    filter_if rfl .sanitize true value
  have lowers (value : Document) :
      filter .transform (property.rules phonePattern).transform value =
        .ok (Filter.apply (if decide (limits.format = some "email") then Text.lower else id) value) := by
    rw [transform]
    exact filter_if rfl .transform _ value
  have changed (text : String) :
      (filter .sanitize [.plain "trim"] (.string text) >>=
        filter .transform (property.rules phonePattern).transform) =
          .ok (.string (limits.normalText text)) := by
    simp only [trims, lowers, bind, Except.bind, Filter.apply, StringLimits.normalText]
    by_cases email : limits.format = some "email" <;> simp [email]
  rw [prepare, cast, sanitize, ← castKind, castKind_string]
  cases raw with
  | null =>
    simp only [trims, lowers, Cast.string, Except.mapError, bind, Except.bind]
    rfl
  | string text => exact changed text
  | number number => exact changed number.text
  | bool flag => exact changed (Cast.boolText flag)
  | array items => rfl
  | object members => rfl

private theorem valueOf?_normal {raw value : Document} (stands : limits.valueOf? raw = some value) :
    value = .null ∨ ∃ text, value = .string text ∧ Text.IsTrimmed text.toList := by
  have trimmed (text : String) : Text.IsTrimmed (limits.normalText text).toList := by
    have start : Text.IsTrimmed (Text.trim text).toList := Text.trim_eq_self_iff.mp (Text.trim_trim text)
    rw [StringLimits.normalText]
    split_ifs
    · simpa [Text.lower] using start.lowerAfter []
    · exact start
  cases raw <;> cases stands
  · exact .inl rfl
  · exact .inr ⟨_, rfl, trimmed _⟩
  · exact .inr ⟨_, rfl, trimmed _⟩
  · exact .inr ⟨_, rfl, trimmed _⟩

end StandardEngine

namespace Loader

open StandardEngine

/-- A string schema without choices that was loaded means what its limits say: its rules accept the
values that keep them, in their normal form, and call every other value invalid. -/
theorem process_string {loader : Loader} {name path : String} {document : Document}
    {property : Property} {left : Nat}
    (defined : (Document.object loader.definitions).wellFormed) (sound : document.wellFormed)
    (loads : loader.run (loader.load name path document) = (.ok property, left))
    {limits : StringLimits} (kind : property.kind = .string limits)
    (free : property.annotations.choices = none) {phonePattern : String} {phone : Pattern}
    (compiles : Pattern.ofText phonePattern = .ok phone) (raw : Document) :
    (limits.valueOf? raw = none → ∃ messages, messages ≠ [] ∧
        process raw (property.rules phonePattern) = .error (.invalid messages)) ∧
      ∀ value, limits.valueOf? raw = some value →
        (process raw (property.rules phonePattern) = .ok value ↔
          limits.Accepts phone property.required value) ∧
        (process raw (property.rules phonePattern) ≠ .ok value → ∃ messages, messages ≠ [] ∧
          process raw (property.rules phonePattern) = .error (.invalid messages)) := by
  have limited : limits.Sound := by
    have known := (load_sound defined sound loads).1.sound.root.kind
    rwa [kind] at known
  rw [process_eq_prepare_bind, prepare_rules kind free]
  refine ⟨fun stands => ?_, fun value stands => ?_⟩ <;> rw [stands]
  · exact ⟨_, List.cons_ne_nil _ _, rfl⟩
  · have accepted : Pattern.isAccepted phonePattern := pattern_accepted_iff.mpr ⟨phone, compiles⟩
    have runs : ∀ token ∈ (property.rules phonePattern).validate, token.Runs := by
      rw [Property.rules, Property.kindTokens, kind, List.forall_mem_append]
      refine ⟨?_, Property.stringTokens_run limited accepted property⟩
      split_ifs
      · exact List.forall_mem_singleton.mpr Token.required_runs
      · exact List.forall_mem_nil _
    obtain ⟨accepts, refuses⟩ := validate_outcome runs value
    refine ⟨?_, refuses⟩
    rw [← Property.rules_pass_iff kind limited free compiles (valueOf?_normal stands)]
    exact accepts

/-- A mail address is accepted in lower case and without the blanks around it, unless that leaves it
too short. -/
theorem process_string_mail :
    let document : Document := .object
      [("type", .string "string"), ("format", .string "email"), ("minLength", .ofNat 6)]
    let limits : StringLimits := ⟨some "email", some 6, none, none, none, none⟩
    let property : Property := .plain "mail" (.string limits)
    let digits : Pattern := .repeated 1 none (.char ⟨[(48, 57)]⟩)
    (Document.object []).wellFormed ∧ document.wellFormed ∧
      (Loader.mk [] 1 1).run ((Loader.mk [] 1 1).load "mail" "#" document) = (.ok property, 0) ∧
      property.kind = .string limits ∧ property.annotations.choices = none ∧
      Pattern.ofText "[0-9]+" = .ok digits ∧
      process (.string " A@B.co ") (property.rules "[0-9]+") = .ok (.string "a@b.co") ∧
      ∃ messages, messages ≠ [] ∧
        process (.string " A@B.c ") (property.rules "[0-9]+") = .error (.invalid messages) := by
  intro document limits property digits
  have defined : (Document.object []).wellFormed := rfl
  have sound : document.wellFormed := by decide
  have loads : (Loader.mk [] 1 1).run ((Loader.mk [] 1 1).load "mail" "#" document) =
      (.ok property, 0) := rfl
  have compiles : Pattern.ofText "[0-9]+" = .ok digits := rfl
  have long : limits.valueOf? (.string " A@B.co ") = some (.string "a@b.co") := by
    have normal : limits.normalText " A@B.co " = "a@b.co" := by decide
    rw [StringLimits.valueOf?, normal]
  have short : limits.valueOf? (.string " A@B.c ") = some (.string "a@b.c") := by
    have normal : limits.normalText " A@B.c " = "a@b.c" := by decide
    rw [StringLimits.valueOf?, normal]
  have admitted : limits.Admits digits "a@b.co" := by
    refine ⟨?_, nofun, ?_, nofun, nofun⟩
    · rintro _ ⟨⟩
      decide
    · rintro _ ⟨⟩
      change Email.isValid "a@b.co"
      decide
  have refused : ¬limits.Accepts digits false (.string "a@b.c") := by
    rintro (⟨empty, -⟩ | ⟨text, same, -, admits⟩)
    · rcases empty with empty | empty <;> simp at empty
    · cases same
      have enough := admits.minLength 6 rfl
      revert enough
      decide
  obtain ⟨accepts, -⟩ :=
    (process_string defined sound loads rfl rfl compiles (.string " A@B.co ")).2 _ long
  obtain ⟨rejects, invalid⟩ :=
    (process_string defined sound loads rfl rfl compiles (.string " A@B.c ")).2 _ short
  refine ⟨defined, sound, loads, rfl, rfl, compiles, ?_, ?_⟩
  · exact accepts.mpr (.inr ⟨"a@b.co", rfl, by decide, admitted⟩)
  · exact invalid (rejects.not.mpr refused)

end Loader

end Intake
