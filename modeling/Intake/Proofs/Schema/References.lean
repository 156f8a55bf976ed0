import Intake.Proofs.Schema.Loading
import Intake.Proofs.Schema.Relation
import Mathlib.Logic.Relation

/-! # Where references are found to be cyclic

A reference is refused as cyclic when it is met while it is being expanded. What is loaded at that
time are not only the schemas of its definition, but also those written beside the reference, which
replace members of the definition. So the loader follows a graph with two kinds of edges between
definitions: from a definition to those that it mentions, and from what a reference stands for to
those that are mentioned beside that reference. Only a cycle in this graph makes the loader refuse a
reference as cyclic; the edges of the first kind alone may have none.
-/

open Relation (TransGen ReflTransGen)

namespace Intake

/-- The name of the definition that the reference of an object points to. -/
def Members.reference? (members : Members) : Option String :=
  ((members.find? "$ref").bind Document.string?).bind Loader.referencedName?

/-- The object stands at the place of a schema in the document: it is the document, or a part of one
of the schemas that the document is made of. -/
inductive Document.HasPart : Document → Members → Prop where
  | itself (members : Members) : HasPart (.object members) members
  | within {members part : Members} {document : Document} (held : members.HasSchema document)
      (nested : HasPart document part) : HasPart (.object members) part

/-- At the place of a schema in the document there is a reference to the name. -/
def Document.Mentions (document : Document) (name : String) : Prop :=
  ∃ part, document.HasPart part ∧ part.reference? = some name

namespace Members

/-- One of the schemas that the object is made of mentions the name. -/
def MentionsBelow (members : Members) (name : String) : Prop :=
  ∃ document, members.HasSchema document ∧ document.Mentions name

variable (definitions : Members)

/-- The definition with the first name mentions the second one. -/
def Refers (name other : String) : Prop :=
  ∃ definition, definitions.find? name = some definition ∧ definition.Mentions other

/-- The definition with the first name is itself a reference to the second one. -/
def StandsFor (name other : String) : Prop :=
  ∃ members : Members,
    definitions.find? name = some (.object members) ∧ members.reference? = some other

/-- In the document or in a definition, beside a reference that stands for the first name, the second
one is mentioned. -/
def Overrides (document : Document) (name other : String) : Prop :=
  ∃ part : Members, (document.HasPart part ∨
      ∃ key definition, definitions.find? key = some definition ∧ definition.HasPart part) ∧
    ∃ first, part.reference? = some first ∧ ReflTransGen definitions.StandsFor first name ∧
      part.MentionsBelow other

/-- An edge of the graph that a loader follows from a document. -/
def LeadsTo (document : Document) (name other : String) : Prop :=
  definitions.Refers name other ∨ definitions.Overrides document name other

variable {definitions} {members target : Members} {document : Document} {name other : String}

private theorem HasSchema.of_insertAll {additions : Members}
    (held : (target.insertAll additions).HasSchema document) :
    target.HasSchema document ∨ additions.HasSchema document := by
  obtain ⟨member, present, within⟩ := held
  exact (mem_of_mem_insertAll present).imp (fun kept => ⟨member, kept, within⟩)
    fun written => ⟨member, written, within⟩

private theorem HasSchema.of_without {left : List String}
    (held : (members.without left).HasSchema document) : members.HasSchema document := by
  obtain ⟨member, present, within⟩ := held
  exact ⟨member, (List.mem_filter.mp present).1, within⟩

/-- What is written over a definition brings its schemas along, but not its reference. -/
theorem reference?_overridden (target members : Members) :
    (target.insertAll (members.without ["$ref"])).reference? = target.reference? := by
  have absent : "$ref" ∉ keys (members.without ["$ref"]) := by
    simp [mem_keys_without]
  rw [reference?, find?_insertAll_of_notMem absent, reference?]

private theorem MentionsBelow.of_overridden
    (mentions : (target.insertAll (members.without ["$ref"])).MentionsBelow name) :
    target.MentionsBelow name ∨ members.MentionsBelow name := by
  obtain ⟨document, held, within⟩ := mentions
  rcases held.of_insertAll with kept | written
  · exact .inl ⟨document, kept, within⟩
  · exact .inr ⟨document, written.of_without, within⟩

end Members

namespace Document

variable {members : Members} {document : Document} {name : String}

private theorem mentions_object :
    (object members).Mentions name ↔ members.reference? = some name ∨ members.MentionsBelow name := by
  constructor
  · rintro ⟨part, place, refers⟩
    cases place with
    | itself => exact .inl refers
    | within held nested => exact .inr ⟨_, held, part, nested, refers⟩
  · rintro (refers | ⟨document, held, part, nested, refers⟩)
    · exact ⟨members, .itself members, refers⟩
    · exact ⟨part, .within held nested, refers⟩

end Document

namespace Loader

open Load

variable {loader : Loader} {value document : Document} {members : Members} {expanding : List String}

/-- What is known of a document that is reached from a value while references are being expanded:
each of these leads to all names that the document mentions, and what is written beside a reference
in the document counts as an override. -/
structure Reached (definitions : Members) (value : Document) (expanding : List String)
    (document : Document) : Prop where
  leads : ∀ text ∈ expanding, ∃ name, referencedName? text = some name ∧
    ∀ other, document.Mentions other → TransGen (definitions.LeadsTo value) name other
  overrides : ∀ part, document.HasPart part → ∀ first, part.reference? = some first →
    ∀ name, ReflTransGen definitions.StandsFor first name → ∀ other, part.MentionsBelow other →
      definitions.Overrides value name other

variable {definitions : Members}

private theorem Reached.start (value : Document) : Reached definitions value [] value := by
  refine ⟨fun _ member => absurd member List.not_mem_nil, ?_⟩
  intro part place first refers name stands other mentions
  exact ⟨part, .inl place, first, refers, stands, mentions⟩

private theorem Reached.below (reached : Reached definitions value expanding (.object members))
    (held : members.HasSchema document) : Reached definitions value expanding document := by
  constructor
  · intro text member
    obtain ⟨name, named, leads⟩ := reached.leads text member
    refine ⟨name, named, fun other mentions => leads other ?_⟩
    exact Document.mentions_object.mpr (.inr ⟨document, held, mentions⟩)
  · intro part place
    exact reached.overrides part (.within held place)

/-- An override in a definition counts whatever the definition is used for. -/
theorem overrides_of_definition {key first name other : String} {definition : Document}
    {part : Members} (found : definitions.find? key = some definition)
    (place : definition.HasPart part) (refers : part.reference? = some first)
    (stands : ReflTransGen definitions.StandsFor first name) (mentions : part.MentionsBelow other) :
    definitions.Overrides value name other :=
  ⟨part, .inr ⟨key, definition, found, place⟩, first, refers, stands, mentions⟩

/-- Where a reference is reached, so is the definition with the members beside the reference written
into it, and the reference is one more of those being expanded. -/
theorem Reached.expand (reached : Reached definitions value expanding (.object members))
    {text first : String} {target : Members}
    (reads : members.find? "$ref" = some (.string text)) (named : referencedName? text = some first)
    (found : definitions.find? first = some (.object target)) :
    Reached definitions value (text :: expanding)
      (.object (target.insertAll (members.without ["$ref"]))) := by
  have refers : members.reference? = some first := by
    rw [Members.reference?, reads]
    exact named
  have beside {name other : String} (stands : ReflTransGen definitions.StandsFor first name)
      (mentions : members.MentionsBelow other) : definitions.Overrides value name other :=
    reached.overrides members (.itself members) first refers name stands other mentions
  -- A name that is mentioned now comes from the definition or from beside the reference.
  have sources {other : String}
      (mentions : (Document.object (target.insertAll (members.without ["$ref"]))).Mentions other) :
      definitions.Refers first other ∨ members.MentionsBelow other := by
    rcases Document.mentions_object.mp mentions with itself | within
    · rw [Members.reference?_overridden] at itself
      exact .inl ⟨_, found, Document.mentions_object.mpr (.inl itself)⟩
    · exact within.of_overridden.imp_left fun inside =>
        ⟨_, found, Document.mentions_object.mpr (.inr inside)⟩
  constructor
  · intro reference member
    rcases List.mem_cons.mp member with rfl | earlier
    · refine ⟨first, named, fun other mentions => .single ?_⟩
      exact (sources mentions).imp_right (beside .refl)
    · obtain ⟨name, known, leads⟩ := reached.leads reference earlier
      refine ⟨name, known, fun other mentions => ?_⟩
      rcases sources mentions with inside | outside
      · exact (leads first (Document.mentions_object.mpr (.inl refers))).tail (.inl inside)
      · exact leads other (Document.mentions_object.mpr (.inr outside))
  · intro part place next points name stands other mentions
    cases place with
    | itself =>
      rw [Members.reference?_overridden] at points
      rcases mentions.of_overridden with inside | outside
      · exact overrides_of_definition found (.itself target) points stands inside
      · exact beside (.head ⟨target, found, points⟩ stands) outside
    | within held nested =>
      rcases held.of_insertAll with inside | outside
      · exact overrides_of_definition found (.within inside nested) points stands mentions
      · exact reached.overrides part (.within outside.of_without nested) next points name stands other
          mentions

/-- The load does not refuse a reference as cyclic. -/
def findsNoCycle : LoadRelation Load Load where
  Holds load _ := ∀ budget error left, (ExceptT.run load).run budget = (.error error, left) →
    error.fault.faultClass ≠ .cyclicReference
  holds_pure _ _ _ _ run := by cases run
  holds_bind {_ _ first _ next _} start rest budget error left run := by
    rw [run_bind] at run
    rcases ended : (ExceptT.run first).run budget with ⟨_ | value, between⟩ <;>
      simp only [ended] at run
    · cases run
      exact start budget _ _ ended
    · exact rest value between error left run
  holds_fail path fault own next further budget error left run := by
    cases run
    intro cyclic
    simp [SchemaFault.isLocal, cyclic] at own

private theorem findsNoCycle_fail {α : Type} (path : String) {fault : SchemaFault}
    (other : fault.faultClass ≠ .cyclicReference) (another : Load α) :
    findsNoCycle.Holds (fail path fault) another := by
  rintro _ _ _ ⟨⟩
  exact other

theorem charge_findsNoCycle (path : String) :
    findsNoCycle.Holds (loader.charge path) (loader.charge path) := by
  intro budget error left run
  cases budget with
  | zero =>
    cases run
    rintro ⟨⟩
  | succ rest => cases run

/-- Only a reference that is being expanded is refused as cyclic. -/
theorem mem_of_expand_cyclic {path : String} {reference : Document} {error : SchemaError}
    (refused : loader.expand expanding path reference members = .error error)
    (cyclic : error.fault.faultClass = .cyclicReference) :
    ∃ text, reference = .string text ∧ text ∈ expanding := by
  rw [expand] at refused
  split at refused
  · cases refused
    cases cyclic
  · next text isText =>
    split at refused
    · cases refused
      cases cyclic
    · split_ifs at refused with repeated
      exact ⟨text, Document.string?_eq_some_iff.mp isText, by simpa using repeated⟩

/-- In a graph without cycles no reference that is reached is refused as cyclic. -/
theorem loadWithin_findsNoCycle
    (acyclic : ∀ name, ¬TransGen (loader.definitions.LeadsTo value) name name) (room : Nat)
    (name path : String) (reached : Reached loader.definitions value expanding document) :
    findsNoCycle.Holds (loader.loadWithin room expanding name path document)
      (loader.loadWithin room expanding name path document) := by
  induction room generalizing expanding name path document with
  | zero => exact findsNoCycle_fail path (by rintro ⟨⟩) _
  | succ room ih =>
    rw [loadWithin]
    split
    · exact findsNoCycle_fail path (by rintro ⟨⟩) _
    · next members isObject =>
      have same := Document.members?_eq_some_iff.mp isObject
      subst same
      split
      · have within : findsNoCycle.HoldsWithin (loader.loadWithin room expanding)
            (loader.loadWithin room expanding) members := fun name path document held =>
          ih name path (reached.below held)
        exact within.property (charge_findsNoCycle path)
      · next reference read =>
        split
        · next error refused =>
          rintro _ _ _ ⟨⟩ cyclic
          obtain ⟨text, rfl, repeated⟩ := mem_of_expand_cyclic refused cyclic
          obtain ⟨name, named, leads⟩ := reached.leads text repeated
          have refers : members.reference? = some name := by
            rw [Members.reference?, read]
            exact named
          exact acyclic name (leads name (Document.mentions_object.mpr (.inl refers)))
        · next text merged expanded =>
          obtain ⟨rfl, first, target, named, found, rfl⟩ := expand_eq_ok expanded
          exact ih name path (reached.expand read named found)

/-- Where a load refuses a reference as cyclic, there is a cycle in the graph that the loader follows
from the document. -/
theorem exists_cycle_of_cyclic {name path : String} {error : SchemaError} {budget left : Nat}
    (fails : (ExceptT.run (loader.load name path document)).run budget = (.error error, left))
    (cyclic : error.fault.faultClass = .cyclicReference) :
    ∃ key, TransGen (loader.definitions.LeadsTo document) key key := by
  by_contra acyclic
  have none := loadWithin_findsNoCycle (not_exists.mp acyclic) (loader.maxDepth + 1) name path
    (.start document)
  exact none budget error left fails cyclic

/-- Definitions may be free of cycles and a reference still be refused. A list whose items are lists
expands to nothing but two lists, but the reference in its items is met while the list is being
expanded: the override leads from the list to itself. -/
theorem exists_cycle_of_cyclic_override :
    let definitions : Members := [("list", .object [("type", .string "array")])]
    let list : String × Document := ("$ref", .string "#/definitions/list")
    let lists : Document := .object [list, ("items", .object [list])]
    (∀ key, ¬TransGen definitions.Refers key key) ∧
      (Loader.mk definitions 8 10).run ((Loader.mk definitions 8 10).load "field" "#" lists) =
        (.error ⟨"#/items", .cyclicReference "#/definitions/list"⟩, 9) ∧
      ∃ key, TransGen (definitions.LeadsTo lists) key key := by
  intro definitions list lists
  have refers (name other : String) : ¬definitions.Refers name other := by
    rintro ⟨definition, found, part, place, points⟩
    obtain ⟨same, isDefinition⟩ : "list" = name ∧
        .object [("type", .string "array")] = definition := by
      simpa [definitions] using found
    subst isDefinition
    cases place with
    | itself => simp [Members.reference?] at points
    | within held =>
      obtain ⟨member, present, inside⟩ := held
      rw [List.mem_singleton] at present
      subst present
      cases inside
  have fails : (Loader.mk definitions 8 10).run
      ((Loader.mk definitions 8 10).load "field" "#" lists) =
        (.error ⟨"#/items", .cyclicReference "#/definitions/list"⟩, 9) := rfl
  refine ⟨fun key cycle => ?_, fails, exists_cycle_of_cyclic fails rfl⟩
  obtain ⟨other, edge, -⟩ := TransGen.head'_iff.mp cycle
  exact refers key other edge

end Loader

end Intake
