import Intake.Proofs.Except
import Intake.Proofs.Pattern.Compile
import Intake.ValueType.Registry

/-! # Registering one more type

A registry that was built by registering types has no two of one name, so each is found under its own
and no other. One more type, registered last, takes no guess from the types that are known: it is tried
on a text after all of them, and only where the type of texts was a last resort.
-/

namespace Intake.TypeRegistry

open RegisteredType (name isGuessable validate)

variable {α : Type} [RegisteredType α] {registry extended : TypeRegistry α} {types : List α}
  {type extra : α} {key : String} {value : Document}

private theorem register_eq_ok_iff : registry.register type = .ok extended ↔
    name type ∉ registry.names ∧ extended = ⟨registry.types ++ [type]⟩ := by
  simp only [register, contains, List.contains_iff_mem]
  split_ifs with known
  · simp [known]
  · simp [known, eq_comm]

private theorem nodup_names_append : (names ⟨registry.types ++ [type]⟩ : List String).Nodup ↔
    registry.names.Nodup ∧ name type ∉ registry.names := by
  rw [names, List.map_append, List.map_singleton, ← List.concat_eq_append, List.nodup_concat]
  exact and_comm

/-- Types are registered one after the other as long as all names are distinct. -/
theorem registerAll_eq_ok_iff (distinct : registry.names.Nodup) :
    registry.registerAll types = .ok extended ↔
      extended = ⟨registry.types ++ types⟩ ∧ extended.names.Nodup := by
  induction types generalizing registry with
  | nil =>
    rw [List.append_nil]
    constructor
    · rintro ⟨⟩
      exact ⟨rfl, distinct⟩
    · rintro ⟨rfl, -⟩
      rfl
  | cons type rest ih =>
    have step : registry.registerAll (type :: rest) =
        registry.register type >>= fun registry => registry.registerAll rest := rfl
    have whole : registry.types ++ type :: rest = (registry.types ++ [type]) ++ rest := by
      rw [List.append_assoc, List.singleton_append]
    rw [step, except_bind_eq_ok, whole]
    constructor
    · rintro ⟨next, registered, others⟩
      obtain ⟨fresh, rfl⟩ := register_eq_ok_iff.mp registered
      exact (ih (nodup_names_append.mpr ⟨distinct, fresh⟩)).mp others
    · rintro ⟨rfl, all⟩
      have first : (names ⟨registry.types ++ [type]⟩ : List String).Nodup := by
        rw [names, List.map_append] at all
        exact (List.nodup_append.mp all).1
      exact ⟨_, register_eq_ok_iff.mpr ⟨(nodup_names_append.mp first).2, rfl⟩, (ih first).mpr ⟨rfl, all⟩⟩

private theorem nodup_names_empty : (empty : TypeRegistry α).names.Nodup := List.nodup_nil

private theorem registerAll_builtin : registerAll empty builtin.types = .ok builtin :=
  (registerAll_eq_ok_iff nodup_names_empty).mpr ⟨rfl, by decide⟩

/-- A type is found under its own name alone. -/
theorem get_eq_ok_iff (distinct : registry.names.Nodup) :
    registry.get key = .ok type ↔ type ∈ registry.types ∧ name type = key := by
  rw [get, List.findRev?_eq_find?_reverse]
  constructor
  · intro found
    split at found
    · next known first =>
      cases found
      exact ⟨List.mem_reverse.mp (List.mem_of_find?_eq_some first), by simpa using List.find?_some first⟩
    · cases found
  · rintro ⟨member, rfl⟩
    cases first : registry.types.reverse.find? fun known => name known == name type with
    | none =>
      have other := List.find?_eq_none.mp first type (List.mem_reverse.mpr member)
      exact absurd (beq_self_eq_true _) other
    | some known =>
      have same : name known = name type := by simpa using List.find?_some first
      rw [List.inj_on_of_nodup_map distinct
        (List.mem_reverse.mp (List.mem_of_find?_eq_some first)) member same]

private theorem get_eq_error (unknown : key ∉ registry.names) :
    registry.get key = .error (.notFound key) := by
  have none : registry.types.reverse.find? (fun type => name type == key) = none := by
    rw [List.find?_eq_none]
    intro type member same
    apply unknown
    rw [← eq_of_beq same]
    exact List.mem_map_of_mem (List.mem_reverse.mp member)
  rw [get, List.findRev?_eq_find?_reverse, none]

/-- What a registry tells of the types that it was built from. -/
structure Lists (registry : TypeRegistry α) (types : List α) : Prop where
  names_eq : registry.names = types.map name
  distinct : registry.names.Nodup
  get_name : ∀ type ∈ types, registry.get (name type) = .ok type
  get_unknown : ∀ key ∉ registry.names, registry.get key = .error (.notFound key)
  guessable_eq : registry.guessable =
    (registry.names.filterMap fun key => (registry.get key).toOption).filter isGuessable

private theorem lists_types (distinct : registry.names.Nodup) : registry.Lists registry.types where
  names_eq := rfl
  distinct := distinct
  get_name _ member := (get_eq_ok_iff distinct).mpr ⟨member, rfl⟩
  get_unknown _ unknown := get_eq_error unknown
  guessable_eq := by
    have found : ∀ type ∈ registry.types,
        ((fun key => (registry.get key).toOption) ∘ name) type = some type := by
      intro type member
      rw [Function.comp_apply, (get_eq_ok_iff distinct).mpr ⟨member, rfl⟩]
      rfl
    rw [names, List.filterMap_map, List.filterMap_congr found, List.filterMap_some]
    rfl

/-- A text is tried on the types, unless it is an integer too wide for a signed word. -/
def IsTried (value : Document) : Prop := ∃ text, value = .string text ∧ ¬isWideInteger text

/-- Whatever is not tried on the types is null, or of the type of a name. -/
theorem guess_of_not_isTried (other : ¬IsTried value) :
    value = .null ∨ ∃ key, ∀ registry : TypeRegistry α, registry.guess value = registry.get key := by
  cases value with
  | null => exact .inl rfl
  | string text =>
    have wide : isWideInteger text := by
      by_contra narrow
      exact other ⟨text, rfl, narrow⟩
    exact .inr ⟨_, fun registry => if_pos wide⟩
  | number number => cases number <;> exact .inr ⟨_, fun registry => rfl⟩
  | bool | array | object => exact .inr ⟨_, fun registry => rfl⟩

/-- The value is a text that none of the known types takes, while the further one does and may be
guessed. -/
structure Leaves (registry : TypeRegistry α) (extra : α) (value : Document) : Prop where
  isTried : IsTried value
  untaken : ∀ known ∈ registry.guessable, ¬validate known value
  isGuessable : isGuessable extra
  taken : validate extra value

private theorem get_append (distinct : registry.names.Nodup) (fresh : name extra ∉ registry.names)
    (known : registry.get key = .ok type) : get ⟨registry.types ++ [extra]⟩ key = .ok type := by
  obtain ⟨member, same⟩ := (get_eq_ok_iff distinct).mp known
  exact (get_eq_ok_iff (nodup_names_append.mpr ⟨distinct, fresh⟩)).mpr
    ⟨List.mem_append_left _ member, same⟩

/-- A text is tried on the further type after all others. -/
theorem find?_guessable_append (takes : α → Bool) :
    (guessable ⟨registry.types ++ [extra]⟩).find? takes =
      (registry.guessable.find? takes).or (if isGuessable extra && takes extra then some extra else none) := by
  rw [guessable, List.filter_append, List.find?_append, List.filter_singleton]
  refine congrArg _ ?_
  cases isGuessable extra with
  | false => rfl
  | true => rw [cond_true, List.find?_singleton, Bool.true_and]

/-- One more type changes no guess but that of a text which is left to it. -/
theorem guess_append (distinct : registry.names.Nodup) (fresh : name extra ∉ registry.names)
    (guessed : registry.guess value = .ok type) :
    (¬registry.Leaves extra value → guess ⟨registry.types ++ [extra]⟩ value = .ok type) ∧
      (registry.Leaves extra value → registry.get BuiltinType.text.name = .ok type ∧
        guess ⟨registry.types ++ [extra]⟩ value = .ok extra) := by
  by_cases tried : IsTried value
  · obtain ⟨text, rfl, narrow⟩ := tried
    rw [guess, if_neg narrow, guessText] at guessed ⊢
    rw [find?_guessable_append]
    cases first : registry.guessable.find? fun known => validate known (.string text) with
    | some known =>
      rw [first] at guessed
      have taken : validate known (.string text) := by simpa using List.find?_some first
      exact ⟨fun _ => guessed, fun leaves =>
        absurd taken (leaves.untaken known (List.mem_of_find?_eq_some first))⟩
    | none =>
      rw [first] at guessed
      have untaken : ∀ known ∈ registry.guessable, ¬validate known (.string text) :=
        List.find?_eq_none.mp first
      rw [Option.none_or]
      split_ifs with left
      · rw [Bool.and_eq_true] at left
        exact ⟨absurd ⟨⟨text, rfl, narrow⟩, untaken, left.1, left.2⟩, fun _ => ⟨guessed, rfl⟩⟩
      · exact ⟨fun _ => get_append distinct fresh guessed, fun leaves =>
          absurd (Bool.and_eq_true_iff.mpr ⟨leaves.isGuessable, leaves.taken⟩) left⟩
  · refine ⟨fun _ => ?_, fun leaves => absurd leaves.isTried tried⟩
    obtain rfl | ⟨key, byName⟩ := guess_of_not_isTried (α := α) tried
    · cases guessed
    · rw [byName] at guessed ⊢
      exact get_append distinct fresh guessed

/-- A registry that was built by registering types, one after the other, lists them by their names. One
more type of a new name can be registered. The guess for a value stays what it was, except that a text
for which nothing but the type of texts was left may go to the further type, if that may be guessed and
takes it. -/
theorem registerAll_register (built : registerAll empty types = .ok registry) :
    registry.Lists types ∧ ∀ extra, name extra ∉ registry.names →
      ∃ extended, registry.register extra = .ok extended ∧ extended.Lists (types ++ [extra]) ∧
        (∀ type, registry.guessMoment = .ok type → extended.guessMoment = .ok type) ∧
        ∀ value type, registry.guess value = .ok type →
          (¬registry.Leaves extra value → extended.guess value = .ok type) ∧
          (registry.Leaves extra value → registry.get BuiltinType.text.name = .ok type ∧
            extended.guess value = .ok extra) := by
  obtain ⟨rfl, distinct⟩ := (registerAll_eq_ok_iff nodup_names_empty).mp built
  refine ⟨lists_types distinct, fun extra fresh => ⟨_, register_eq_ok_iff.mpr ⟨fresh, rfl⟩, ?_⟩⟩
  exact ⟨lists_types (nodup_names_append.mpr ⟨distinct, fresh⟩), fun type => get_append distinct fresh,
    fun value type => guess_append distinct fresh⟩

/-- Article numbers: digits, capitals and hyphens. -/
def articleNumber : ValueType where
  definition := .pattern "sku" "^[0-9A-Z-]+$" (.sequence (.assertion .textStart)
    (.sequence (.repeated 1 none (.char ⟨[(45, 45), (48, 57), (65, 90)]⟩)) (.assertion .textEnd))) true
  options := []

private theorem ofPattern_articleNumber :
    ValueType.ofPattern "sku" "^[0-9A-Z-]+$" true [] = .ok articleNumber := by
  have normal : Unicode.CodeRanges.normalize ⟨[(48, 57), (65, 90), (45, 45)]⟩ =
      ⟨[(45, 45), (48, 57), (65, 90)]⟩ :=
    Unicode.CodeRanges.normalize_eq_of_perm 45 45 [(48, 57), (65, 90)] (by decide) (by decide)
  have read : Pattern.read? "^[0-9A-Z-]+$".toList = some (.sequence (.assertion .textStart)
      (.sequence (.repeated 1 none (.char ⟨[(45, 45), (48, 57), (65, 90)]⟩)) (.assertion .textEnd))) := by
    rw [← normal]
    rfl
  rw [ValueType.ofPattern, Pattern.ofText_eq_ok_iff.mpr ⟨read, by decide⟩]
  rfl

/-- Article numbers are text until their pattern is registered. It takes digits as well, but these stay
integers. -/
theorem registerAll_register_articleNumber :
    ValueType.ofPattern "sku" "^[0-9A-Z-]+$" true [] = .ok articleNumber ∧
      registerAll empty builtin.types = .ok builtin ∧ name articleNumber ∉ builtin.names ∧
      builtin.Leaves articleNumber (.string "ABC-42") ∧ validate articleNumber (.string "42") ∧
      ∃ extended integer, builtin.register articleNumber = .ok extended ∧
        builtin.guess (.string "ABC-42") = .ok (.ofBuiltin .text []) ∧
        extended.guess (.string "ABC-42") = .ok articleNumber ∧ name integer = "integer" ∧
        builtin.guess (.string "42") = .ok integer ∧ extended.guess (.string "42") = .ok integer := by
  have fresh : name articleNumber ∉ builtin.names := by decide
  have taken : validate articleNumber (.string "42") := by decide +kernel
  have leaves : builtin.Leaves articleNumber (.string "ABC-42") :=
    ⟨⟨_, rfl, by decide +kernel⟩, by decide +kernel, rfl, by decide +kernel⟩
  have text : builtin.guess (.string "ABC-42") = .ok (.ofBuiltin .text []) := by
    obtain ⟨_, ⟨⟩, narrow⟩ := leaves.isTried
    rw [guess, if_neg narrow, guessText, List.find?_eq_none.mpr leaves.untaken]
    rfl
  have digits : builtin.guess (.string "42") = .ok (.ofBuiltin .integer []) := rfl
  have known : ¬∀ known ∈ builtin.guessable, ¬validate known (.string "42") := by decide +kernel
  obtain ⟨-, further⟩ := registerAll_register registerAll_builtin
  obtain ⟨extended, registered, -, -, kept⟩ := further articleNumber fresh
  exact ⟨ofPattern_articleNumber, registerAll_builtin, fresh, leaves, taken, extended,
    .ofBuiltin .integer [], registered, text, ((kept _ _ text).2 leaves).2, rfl, digits,
    (kept _ _ digits).1 fun left => known left.untaken⟩

end Intake.TypeRegistry
