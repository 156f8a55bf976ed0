import Intake.Proofs.Binary64.Integers
import Intake.Proofs.Engine.Choices
import Intake.Proofs.Engine.Meaning

/-! # Bounds of integers

A value and the bounds of an integer schema are compared as binary64 numbers, and so is the value
with the integers to choose from. The comparison is that of the integers themselves unless the two
are brought together by rounding, which takes at least `2 ^ 53` on both sides: then they count as
equal.
-/

namespace Intake

open Binary64 (Merges)

namespace Number

/-- The text of an integer is its own lower case. -/
theorem lower_text_integer (value : Int) :
    Text.lower (text (.integer value)) = text (.integer value) := by
  apply Text.lower_of_isLower
  intro c member
  rw [text, String.toList_ofList] at member
  apply Text.isLower_of_lt
  rcases mem_chars_integer member with digit | rfl
  · obtain ⟨-, most⟩ := Char.isDigit_iff_toNat.mp digit
    exact Nat.lt_of_le_of_lt most (by decide)
  · decide

/-- No byte order mark stands in front of the text of an integer. -/
theorem head?_text_integer_ne (value : Int) : (text (.integer value)).toList.head? ≠ some '\ufeff' := by
  intro first
  rw [text, String.toList_ofList] at first
  rcases mem_chars_integer (List.mem_of_head? first) with digit | minus
  · revert digit
    decide
  · revert minus
    decide

end Number

/-- Integers to choose from come to be known by their texts. -/
theorem offered_integers (choices : List Int) :
    offered (choices.map .ofInt) = choices.map fun choice => (Number.integer choice).text := by
  have texts (choice : Int) : choiceText (.ofInt choice) = (Number.integer choice).text :=
    Number.lower_text_integer choice
  rw [offered, List.map_map]
  simp only [Function.comp_def, texts]
  have kept : Record.readBack (choices.map fun choice => (Number.integer choice).text.toList) =
      choices.map fun choice => (Number.integer choice).text.toList := by
    cases choices with
    | nil => rfl
    | cons choice others => exact Record.readBack_of_head?_ne (Number.head?_text_integer_ne choice) _
  rw [kept, List.map_map]
  simp only [Function.comp_def, String.ofList_toList]

/-- What a relation amounts to for an integer and a bound that is one. -/
def Relation.Compares (value bound : Int) : Relation → Prop
  | .atLeast => bound ≤ value ∨ Merges bound value
  | .atMost => value ≤ bound ∨ Merges value bound
  | .above => bound < value ∧ ¬Merges value bound
  | .below => value < bound ∧ ¬Merges bound value

private theorem Relation.holds_iff {value bound : Int} {x y : Binary64}
    (first : Binary64.ofInt? value = some x) (second : Binary64.ofInt? bound = some y)
    (relation : Relation) : relation.holds x y ↔ relation.Compares value bound := by
  have below : x ≤ y ↔ value ≤ bound ∨ Merges value bound := Binary64.le_iff first second
  have above : y ≤ x ↔ bound ≤ value ∨ Merges bound value := Binary64.le_iff second first
  have strict {x y : Binary64} : x < y ↔ ¬y ≤ x := Int.not_le.symm
  cases relation with
  | atLeast => simpa [holds, Compares] using above
  | atMost => simpa [holds, Compares] using below
  | above => simp [holds, Compares, strict, below]
  | below => simp [holds, Compares, strict, above]

namespace Validator

variable {value bound : Int}

private theorem bound_eq_ok_none_iff {relation : Relation} {argument? : Option String} {shown : String}
    {document : Document} {x y : Binary64} (stands : number? document = some x)
    (read : numberArgument relation.ruleName argument? = .ok (shown, y)) :
    Validator.bound relation argument? document = .ok none ↔ relation.holds x y := by
  rw [Validator.bound, read]
  simp only [bind, Except.bind, stands, pure, Except.pure]
  rw [Except.ok.injEq, complainUnless_eq_none_iff]

private theorem choice_eq_ok_none_iff {choices : List Document} {document : Document} :
    Validator.choice (some (choiceRecord choices)) document = .ok none ↔
      isAmong (offered choices) document := by
  rw [Validator.choice, argument]
  simp only [bind, Except.bind, choices_choiceRecord, pure, Except.pure]
  rw [Except.ok.injEq, complainUnless_eq_none_iff]

private theorem bound_passes_iff (inside : (Number.integer value).inRange)
    (sound : (Number.integer bound).inRange) (relation : Relation) :
    Validator.bound relation (some (Number.integer bound).text) (.ofInt value) = .ok none ↔
      relation.Compares value bound := by
  obtain ⟨x, first⟩ := Binary64.exists_ofInt? (Number.natAbs_le_of_inRange inside)
  obtain ⟨y, second, read⟩ := numberArgument_text relation.ruleName sound
  have stands : number? (.ofInt value) = some x := first
  rw [bound_eq_ok_none_iff stands read, relation.holds_iff first second]

private theorem sameValue_text_iff {x : Binary64} {choice : Int}
    (first : Binary64.ofInt? value = some x) (sound : (Number.integer choice).inRange) :
    (Text.number? (Number.integer choice).text).any x.sameValue ↔
      choice = value ∨ Merges choice value := by
  obtain ⟨y, second⟩ := Binary64.exists_ofInt? (Number.natAbs_le_of_inRange sound)
  have read : Text.number? (Number.integer choice).text = some y :=
    (Number.number?_text sound).1.trans second
  have symmetric : x.sameValue y ↔ y.sameValue x := by
    rw [Binary64.sameValue, Binary64.sameValue, beq_iff_eq, beq_iff_eq, eq_comm]
  rw [read, Option.any_some, symmetric, Binary64.sameValue_iff second first]

/-- An integer is told from those to choose from unless it is brought together with one of them. -/
theorem choice_passes_iff {choices : List Int} (inside : (Number.integer value).inRange)
    (sound : ∀ choice ∈ choices, (Number.integer choice).inRange) :
    Validator.choice (some (choiceRecord (choices.map .ofInt))) (.ofInt value) = .ok none ↔
      ∃ choice ∈ choices, choice = value ∨ Merges choice value := by
  obtain ⟨x, first⟩ := Binary64.exists_ofInt? (Number.natAbs_le_of_inRange inside)
  have stands : Number.toBinary64? (.integer value) = some x := first
  rw [choice_eq_ok_none_iff, offered_integers, Document.ofInt, isAmong, stands, Option.any_some,
    List.any_map, List.any_eq_true]
  refine exists_congr fun choice => and_congr_right fun member => ?_
  rw [Function.comp_apply, sameValue_text_iff first (sound choice member)]

end Validator

/-- Limits of an integer that are integers. -/
structure IntegerLimits where
  minimum : Option Int
  maximum : Option Int
  exclusiveMinimum : Option Int
  exclusiveMaximum : Option Int
  choices : Option (List Int)
deriving DecidableEq, Repr

namespace IntegerLimits

/-- The bounds as a schema has them, perhaps with a number to be a multiple of. -/
def bounds (limits : IntegerLimits) (step? : Option Number) : NumberLimits where
  minimum := limits.minimum.map .integer
  maximum := limits.maximum.map .integer
  exclusiveMinimum := limits.exclusiveMinimum.map .integer
  exclusiveMaximum := limits.exclusiveMaximum.map .integer
  multipleOf := step?

/-- The values to choose from as a schema has them. -/
def documents (limits : IntegerLimits) : Option (List Document) :=
  limits.choices.map fun choices => choices.map .ofInt

/-- The integer keeps every limit as it is compared. -/
structure Admits (limits : IntegerLimits) (value : Int) : Prop where
  minimum : ∀ low ∈ limits.minimum, low ≤ value ∨ Merges low value
  maximum : ∀ high ∈ limits.maximum, value ≤ high ∨ Merges value high
  exclusiveMinimum : ∀ low ∈ limits.exclusiveMinimum, low < value ∧ ¬Merges value low
  exclusiveMaximum : ∀ high ∈ limits.exclusiveMaximum, value < high ∧ ¬Merges high value
  choices : ∀ choices ∈ limits.choices, ∃ choice ∈ choices, choice = value ∨ Merges choice value

end IntegerLimits

/-- A well-formed value is cast to an integer of a word. -/
theorem Cast.inRange_of_integer {raw : Document} {value : Int} (sound : raw.wellFormed)
    (casts : integer raw = .ok (.ofInt value)) : (Number.integer value).inRange := by
  have signed {value : Int} (fits : fitsSigned value) : (Number.integer value).inRange := by
    rw [Number.inRange, fits]
    rfl
  have whole {x : Binary64} {value : Int} (stands : x.toSigned? = some value) : fitsSigned value := by
    rw [Binary64.toSigned?, Option.filter_eq_some_iff] at stands
    exact stands.2
  rw [integer] at casts
  split at casts
  · cases casts
  · split at casts
    · next stands =>
      cases casts
      cases raw with
      | number number =>
        cases number with
        | integer written =>
          cases stands
          exact sound
        | real x => exact signed (whole stands)
      | string text =>
        rw [integer?, textInteger?] at stands
        cases read : Text.signed? (Text.trimChars text.toList) with
        | some other =>
          rw [read] at stands
          cases stands
          exact signed (Text.fitsSigned_of_signed? read)
        | none =>
          rw [read] at stands
          obtain ⟨x, -, stands⟩ := Option.bind_eq_some_iff.mp stands
          exact signed (whole stands)
      | bool flag =>
        cases stands
        cases flag <;> decide
      | null => cases stands
      | array items => cases stands
      | object members => cases stands
    · cases casts

namespace StandardEngine

variable {property : Property} {phonePattern : String} {limits : IntegerLimits} {step? : Option Number}

private theorem passes_bounds_iff {name : String} {relation : Relation}
    (known : Validator.find? name = some (Validator.bound relation)) {bound? : Option Int} {value : Int}
    (inside : (Number.integer value).inRange)
    (sound : ∀ number ∈ bound?.map Number.integer, number.inRange) :
    (∀ token ∈ limitToken name ((bound?.map Number.integer).map Number.text),
        Passes (.ofInt value) token) ↔
      ∀ bound ∈ bound?, relation.Compares value bound := by
  have filled : ¬isEmptyInput (.ofInt value) := Bool.false_ne_true
  rw [Property.limitToken_pass_iff, Option.forall_mem_map, Option.forall_mem_map]
  rw [Option.forall_mem_map] at sound
  refine forall_congr' fun bound => imp_congr_right fun given => ?_
  rw [passes_iff_of_find? known filled]
  exact Validator.bound_passes_iff inside (sound bound given) relation

private theorem passes_choices_iff {value : Int} (inside : (Number.integer value).inRange)
    (listed : property.annotations.choices = limits.documents) (sound : property.annotations.Sound) :
    (∀ token ∈ property.choiceTokens, Passes (.ofInt value) token) ↔
      ∀ choices ∈ limits.choices, ∃ choice ∈ choices, choice = value ∨ Merges choice value := by
  have filled : ¬isEmptyInput (.ofInt value) := Bool.false_ne_true
  rw [Property.choiceTokens, Property.limitToken_pass_iff, listed, IntegerLimits.documents,
    Option.forall_mem_map, Option.forall_mem_map]
  refine forall_congr' fun choices => imp_congr_right fun given => ?_
  rw [passes_iff_of_find? rfl filled]
  apply Validator.choice_passes_iff inside
  intro choice member
  have written : choices.map Document.ofInt ∈ property.annotations.choices := by
    rw [listed, IntegerLimits.documents]
    exact Option.mem_map_of_mem _ given
  exact sound.choices _ written _ (List.mem_map_of_mem member)

/-- An integer is accepted exactly if it keeps the limits, and the number that it is to be a multiple
of finds it to be one. Two integers that rounding brings together count as equal in this. -/
theorem process_integer_iff (kind : property.kind = .integer (limits.bounds step?))
    (listed : property.annotations.choices = limits.documents) (sound : property.kind.Sound)
    (sound' : property.annotations.Sound) {raw : Document} (wellFormed : raw.wellFormed) {value : Int} :
    process raw (property.rules phonePattern) = .ok (.ofInt value) ↔
      Cast.integer raw = .ok (.ofInt value) ∧ limits.Admits value ∧
        ∀ step ∈ step?, Passes (.ofInt value) (.withArgument "multiple_of" step.text) := by
  -- The filters leave numbers alone, so it is the cast value that is looked at.
  have prepared : prepare (property.rules phonePattern) raw = .ok (.ofInt value) ↔
      Cast.integer raw = .ok (.ofInt value) := by
    rw [prepare_property, kind, Kind.name, castKind_integer, except_map_eq_ok]
    constructor
    · rintro ⟨cast, casts, filtered⟩
      rw [except_mapError_eq_ok] at casts
      rcases Cast.integer_eq_ok casts with rfl | ⟨whole, rfl⟩
      · cases filtered
      · cases filtered
        exact casts
    · intro casts
      exact ⟨.ofInt value, except_mapError_eq_ok.mpr casts, rfl⟩
  rw [process_eq_ok_iff, prepared, complaints_eq_nil_iff]
  refine and_congr_right fun casts => ?_
  have inside := Cast.inRange_of_integer wellFormed casts
  have filled : ¬isEmptyInput (.ofInt value) := Bool.false_ne_true
  have bounds : NumberLimits.Sound (limits.bounds step?) := by
    rw [kind] at sound
    exact sound
  have present : ∀ token ∈ if property.required then [Token.plain "required"] else [],
      Passes (.ofInt value) token := by
    split_ifs
    · exact List.forall_mem_singleton.mpr rfl
    · exact List.forall_mem_nil _
  have whole : ∀ token ∈ ((Table.numericValidator? .integer).map Token.plain).toList,
      Passes (.ofInt value) token := List.forall_mem_singleton.mpr rfl
  have steps : (∀ token ∈ limitToken "multiple_of" (step?.map Number.text),
      Passes (.ofInt value) token) ↔
        ∀ step ∈ step?, Passes (.ofInt value) (.withArgument "multiple_of" step.text) := by
    rw [Property.limitToken_pass_iff, Option.forall_mem_map]
  have least := @passes_bounds_iff "gte" .atLeast rfl _ _ inside bounds.minimum
  have most := @passes_bounds_iff "lte" .atMost rfl _ _ inside bounds.maximum
  have above := @passes_bounds_iff "gt" .above rfl _ _ inside bounds.exclusiveMinimum
  have below := @passes_bounds_iff "lt" .below rfl _ _ inside bounds.exclusiveMaximum
  have among := passes_choices_iff inside listed sound'
  simp only [Property.rules, Property.kindTokens, kind, Property.numberTokens, List.forall_mem_append,
    IntegerLimits.bounds, iff_true_intro present, iff_true_intro whole, true_and, least, most, above,
    below, among, steps]
  constructor
  · rintro ⟨⟨⟨⟨⟨low, high⟩, low'⟩, high'⟩, multiple⟩, chosen⟩
    exact ⟨⟨low, high, low', high', chosen⟩, multiple⟩
  · rintro ⟨⟨low, high, low', high', chosen⟩, multiple⟩
    exact ⟨⟨⟨⟨⟨low, high⟩, low'⟩, high'⟩, multiple⟩, chosen⟩

/-- A maximum of `2 ^ 53` is kept by the next integer as well, but not by the one after it. -/
theorem process_integer_merged :
    let limits : IntegerLimits := ⟨none, some 9007199254740992, none, none, none⟩
    let property := Property.plain "count" (.integer (limits.bounds none))
    property.kind = .integer (limits.bounds none) ∧
      property.annotations.choices = limits.documents ∧ property.kind.Sound ∧
      property.annotations.Sound ∧
      (Document.wellFormed (.ofInt 9007199254740993) ∧
        process (.ofInt 9007199254740993) (property.rules "") = .ok (.ofInt 9007199254740993)) ∧
      Document.wellFormed (.ofInt 9007199254740994) ∧
        process (.ofInt 9007199254740994) (property.rules "") ≠ .ok (.ofInt 9007199254740994) := by
  intro limits property
  have sound : property.kind.Sound := by
    refine ⟨nofun, ?_, nofun, nofun, nofun⟩
    rintro number ⟨⟩
    decide
  have sound' : property.annotations.Sound := ⟨nofun, nofun, nofun, nofun⟩
  have together : Binary64.ofInt? 9007199254740993 = Binary64.ofInt? 9007199254740992 := by
    decide +kernel
  have apart : ∀ x ∈ Binary64.ofInt? 9007199254740994, ∀ y ∈ Binary64.ofInt? 9007199254740992,
      ¬x.sameValue y := by
    decide +kernel
  have first : Document.wellFormed (.ofInt 9007199254740993) := by decide
  have second : Document.wellFormed (.ofInt 9007199254740994) := by decide
  have accepts := @process_integer_iff property "" limits none rfl rfl sound sound' _ first
    9007199254740993
  have refuses := @process_integer_iff property "" limits none rfl rfl sound sound' _ second
    9007199254740994
  refine ⟨rfl, rfl, sound, sound', ⟨first, accepts.mpr ⟨rfl, ⟨nofun, ?_, nofun, nofun, nofun⟩, nofun⟩⟩,
    second, fun accepted => ?_⟩
  · rintro high ⟨⟩
    obtain ⟨x, nearest⟩ := Binary64.exists_ofInt? (by decide : Int.natAbs 9007199254740992 ≤ 2 ^ 64)
    exact .inr ⟨by decide, x, together.trans nearest, x, nearest, beq_self_eq_true x.units⟩
  · rcases (refuses.mp accepted).2.1.maximum _ rfl with most | ⟨-, x, nearest, y, nearest', same⟩
    · exact absurd most (by decide)
    · exact apart x nearest y nearest' same

end StandardEngine

end Intake
