import Intake.Config
import Intake.Proofs.Schema.Limits
import Intake.Proofs.Schema.RoundTrip
import Intake.ValueType.Basic

/-! # Types and the schemas that describe them

The schema that describes a type is written without regard to what a loader asks for. It is loaded
all the same, as a single schema that has a kind and nothing else, but for one type: addresses whose
version is left open are described by two alternatives, and neither of these tells its kind.
-/

namespace Intake

/-- The limits of strings of a format. -/
def StringLimits.ofFormat (format : String) : StringLimits :=
  ⟨some format, none, none, none, none, none⟩

/-- The limits of strings in which a pattern is found. -/
def StringLimits.ofPattern (source : String) : StringLimits :=
  ⟨none, none, none, some source, none, none⟩

/-- No number is excluded. -/
def NumberLimits.none : NumberLimits := ⟨.none, .none, .none, .none, .none⟩

/-- No list is excluded. -/
def ListLimits.none : ListLimits := ⟨.none, .none, .none, .none, false⟩

/-- The loader that has no definitions and the limits that hold unless others are set. -/
def Loader.standard : Loader := ⟨[], Config.default.maxDepth, Config.default.maxNodes⟩

namespace ValueType

/-- The type was built in, with any options overridden, or its pattern was compiled. -/
inductive IsMade : ValueType → Prop where
  | builtin (type : BuiltinType) (overrides : Members) : IsMade (ofBuiltin type overrides)
  | pattern {name source : String} {guessable : Bool} {options : Members} {type : ValueType}
      (compiles : ofPattern name source guessable options = .ok type) : IsMade type

/-- The type is that of addresses and its options settle for neither version. -/
def LeavesVersionOpen (type : ValueType) : Prop :=
  type.builtin? = some .ip ∧ Options.text? type.options "version" ≠ some "4" ∧
    Options.text? type.options "version" ≠ some "6"

/-- The kind of addresses as options admit them, if they settle for a version. -/
def addressKind? (options : Members) : Option Kind :=
  match Options.text? options "version" with
  | some "4" => some (.string (.ofFormat "ipv4"))
  | some "6" => some (.string (.ofFormat "ipv6"))
  | _ => none

/-- The kind that the schema of a type tells, if it tells one throughout. -/
def kind? (type : ValueType) : Option Kind :=
  match type.definition with
  | .pattern _ source _ _ => some (.string (.ofPattern source))
  | .builtin .text => some (.string ⟨none, none, none, none, none, none⟩)
  | .builtin .email => some (.string (.ofFormat "email"))
  | .builtin .url => some (.string (.ofFormat "uri"))
  | .builtin .hostname => some (.string (.ofFormat "hostname"))
  | .builtin .uuid => some (.string (.ofFormat "uuid"))
  | .builtin .ip => addressKind? type.options
  | .builtin .date => some (.string (.ofFormat "date"))
  | .builtin .datetime => some (.string (.ofFormat "date-time"))
  | .builtin .time => some (.string (.ofFormat "time"))
  | .builtin .integer => some (.integer .none)
  | .builtin .float => some (.number .none)
  | .builtin .boolean => some .boolean
  | .builtin .array => some (.array .none none none)
  | .builtin .object => some .emptyObject

variable {type : ValueType} {kind : Kind} {name path : String}

private theorem addressKind?_eq_none_iff {options : Members} :
    addressKind? options = none ↔
      Options.text? options "version" ≠ some "4" ∧ Options.text? options "version" ≠ some "6" := by
  rw [addressKind?]
  split <;> simp_all

private theorem kind?_eq_none_iff : type.kind? = none ↔ type.LeavesVersionOpen := by
  obtain ⟨definition, options⟩ := type
  cases definition with
  | pattern name source pattern guessable => simp [kind?, LeavesVersionOpen, builtin?]
  | builtin builtin =>
    cases builtin <;> simp [kind?, LeavesVersionOpen, builtin?, addressKind?_eq_none_iff]

/-- A schema that tells a kind is written like the schema of just that kind. -/
theorem toDocument_plain_of_kind? (tells : type.kind? = some kind) :
    (Property.plain name kind).toDocument = .object type.fragment := by
  obtain ⟨definition, options⟩ := type
  cases definition with
  | pattern name source pattern guessable =>
    cases tells
    rfl
  | builtin builtin =>
    cases builtin
    case ip =>
      simp only [kind?, addressKind?] at tells
      split at tells <;> cases tells
      all_goals
        rename_i version
        simp only [fragment, addressFragment, version]
        rfl
    all_goals
      cases tells
      rfl

/-- The kind that a type tells is sound: where it has a pattern, the type was made with it. -/
theorem kind_sound_of_isMade (made : type.IsMade) (tells : type.kind? = some kind) :
    kind.Sound := by
  cases made with
  | pattern compiles =>
    rw [ofPattern] at compiles
    split at compiles
    · cases compiles
    · next pattern accepted =>
      cases compiles
      cases tells
      refine ⟨nofun, nofun, ?_⟩
      rintro _ ⟨⟩
      exact Loader.pattern_accepted_iff.mpr ⟨pattern, accepted⟩
  | builtin builtin overrides =>
    cases builtin
    case ip =>
      simp only [kind?, ofBuiltin, addressKind?] at tells
      split at tells <;> cases tells <;> exact ⟨nofun, nofun, nofun⟩
    case integer | float => cases tells; exact ⟨nofun, nofun, nofun, nofun, nofun⟩
    case boolean => cases tells; trivial
    case array => cases tells; exact ⟨⟨nofun, nofun, nofun, nofun⟩, nofun, nofun⟩
    case object => cases tells; exact ⟨⟨.nil, nofun, nofun⟩, .nil, nofun⟩
    all_goals
      cases tells
      exact ⟨nofun, nofun, nofun⟩

/-- A kind that a type tells is not made of other schemas. -/
theorem kind_children_of_kind? (tells : type.kind? = some kind) : kind.children = [] := by
  obtain ⟨definition, options⟩ := type
  cases definition with
  | pattern name source pattern guessable =>
    cases tells
    rfl
  | builtin builtin =>
    cases builtin
    case ip =>
      simp only [kind?, addressKind?] at tells
      split at tells <;> cases tells <;> rfl
    all_goals
      cases tells
      rfl

/-- Any loader that may load a schema at all loads the schema of a type that tells a kind, and finds
that kind and nothing else. -/
theorem outcome_fragment_of_kind? (made : type.IsMade) (tells : type.kind? = some kind)
    {loader : Loader} (room : 0 < loader.maxNodes) (name path : String) :
    loader.outcome name path (.object type.fragment) = .ok (.plain name kind) := by
  have children : (Property.plain name kind).children = [] := by
    simp [Property.children, Property.plain, kind_children_of_kind? tells]
  have root : (Property.plain name kind).RootSound :=
    Property.plain_rootSound (kind_sound_of_isMade made tells)
  have sound : (Property.plain name kind).Sound := .node root (by simp [children])
  have size : (Property.plain name kind).size = 1 := by
    rw [Property.size_eq, children]
    rfl
  rw [← toDocument_plain_of_kind? tells, Loader.outcome_eq_ok_iff]
  refine ⟨loader.maxNodes - 1, ?_⟩
  have restored := Loader.loadWithin_restores loader [] loader.maxDepth.succ_pos sound children path
    (loader.maxNodes - 1)
  rwa [size, Nat.sub_add_cancel room] at restored

private theorem fragment_of_leavesVersionOpen (leaves : type.LeavesVersionOpen) :
    type.fragment = [("type", .string "string"), ("anyOf", .array
      [.object [("format", .string "ipv4")], .object [("format", .string "ipv6")]])] := by
  obtain ⟨definition, options⟩ := type
  obtain ⟨builtin, notFour, notSix⟩ := leaves
  cases definition with
  | pattern => cases builtin
  | builtin type =>
    cases builtin
    simp only [fragment, addressFragment]

/-- The alternatives of addresses of either version have a format only, so loading the first fails. -/
theorem outcome_fragment_of_leavesVersionOpen (leaves : type.LeavesVersionOpen)
    (name path : String) :
    Loader.standard.outcome name path (.object type.fragment) =
      .error ⟨path ++ "/anyOf/0", .missingKind⟩ := by
  have place (key : String) (index : Nat) :
      s!"{path}/{key}/{index}" = path ++ ("/" ++ key ++ "/" ++ index.repr) := by
    simp [toString, String.append_assoc]
  have first : path ++ ("/" ++ "anyOf" ++ "/" ++ Nat.repr 0) = path ++ "/anyOf/0" := rfl
  rw [fragment_of_leavesVersionOpen leaves, ← first, ← place]
  rfl

/-- A type describes itself by a schema that is loaded unless it is that of addresses whose version is
left open; the schema of these fails at its first alternative, which tells no kind. -/
theorem outcome_fragment (made : type.IsMade) (name path : String) :
    ((∃ property, Loader.standard.outcome name path (.object type.fragment) = .ok property) ↔
        ¬type.LeavesVersionOpen) ∧
      (type.LeavesVersionOpen → Loader.standard.outcome name path (.object type.fragment) =
        .error ⟨path ++ "/anyOf/0", .missingKind⟩) := by
  refine ⟨⟨?_, fun settled => ?_⟩, fun leaves =>
    outcome_fragment_of_leavesVersionOpen leaves name path⟩
  · rintro ⟨property, loads⟩ leaves
    cases loads.symm.trans (outcome_fragment_of_leavesVersionOpen leaves name path)
  · cases tells : type.kind? with
    | none => exact absurd (kind?_eq_none_iff.mp tells) settled
    | some kind =>
      exact ⟨_, outcome_fragment_of_kind? made tells (by decide) name path⟩

/-- Addresses of the fourth version describe themselves by a schema that is loaded; with the options
that hold by default they do not, and neither do they with a version that there is not. -/
theorem outcome_fragment_address :
    (∃ property, Loader.standard.outcome "field" "#"
      (.object (ofBuiltin .ip [("version", .string "4")]).fragment) = .ok property) ∧
    Loader.standard.outcome "field" "#" (.object (ofBuiltin .ip []).fragment) =
      .error ⟨"#/anyOf/0", .missingKind⟩ ∧
    Loader.standard.outcome "field" "#"
      (.object (ofBuiltin .ip [("version", .string "5")]).fragment) =
      .error ⟨"#/anyOf/0", .missingKind⟩ := by
  have four : ¬(ofBuiltin .ip [("version", .string "4")]).LeavesVersionOpen :=
    fun leaves => leaves.2.1 rfl
  have either : (ofBuiltin .ip []).LeavesVersionOpen := ⟨rfl, by decide, by decide⟩
  have five : (ofBuiltin .ip [("version", .string "5")]).LeavesVersionOpen :=
    ⟨rfl, by decide, by decide⟩
  exact ⟨(outcome_fragment (.builtin .ip _) "field" "#").1.mpr four,
    (outcome_fragment (.builtin .ip _) "field" "#").2 either,
    (outcome_fragment (.builtin .ip _) "field" "#").2 five⟩

end ValueType

end Intake
