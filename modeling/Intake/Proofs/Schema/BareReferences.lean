import Intake.Proofs.Schema.References
import Intake.Proofs.Schema.Variant

/-! # References with nothing beside them

Where nothing stands beside a reference, it is expanded to its definition as it is, whatever is being
expanded. A variant of a document has nothing beside its references if the document has not.
-/

namespace Intake

open Members (find?)

/-- If the object has a reference it has nothing else. -/
def Members.IsBare (members : Members) : Prop :=
  "$ref" ∈ keys members → ∀ key ∈ keys members, key = "$ref"

/-- Nothing stands beside the references at the places of schemas. -/
def Document.HasBareReferences (document : Document) : Prop :=
  ∀ part, document.HasPart part → part.IsBare

/-- Nothing stands beside the references in the definitions. -/
def Members.HaveBareReferences (definitions : Members) : Prop :=
  ∀ name definition, definitions.find? name = some definition → definition.HasBareReferences

theorem Document.hasBareReferences_object {members : Members} :
    (object members).HasBareReferences ↔
      members.IsBare ∧ ∀ document, members.HasSchema document → document.HasBareReferences := by
  constructor
  · intro bare
    exact ⟨bare members (.itself members), fun document held part place => bare part (.within held place)⟩
  · rintro ⟨bare, below⟩ part place
    cases place with
    | itself => exact bare
    | within held nested => exact below _ held part nested

private theorem Members.IsBare.without_eq_nil {members : Members} (bare : members.IsBare)
    {reference : Document}
    (refers : members.find? "$ref" = some reference) : members.without ["$ref"] = [] := by
  have present : "$ref" ∈ keys members := List.mem_map_of_mem (mem_of_find?_eq_some refers)
  rw [without, List.filter_eq_nil_iff]
  intro member listed
  simp [bare present member.1 (List.mem_map_of_mem listed)]

section Variants

variable {respelled : String → String → Prop} {order : KeyOrder} {document other : Document}

/-- The schemas under a key of a variant are variants of those under the key of the object. -/
theorem MemberVariant.exists_of_mem_schemas {member result : String × Document}
    (variant : MemberVariant respelled order (Document.Variant respelled order) member result)
    (inside : other ∈ Keyword.schemas result.1 result.2) :
    ∃ document ∈ Keyword.schemas member.1 member.2, Document.Variant respelled order document other := by
  cases variant with
  | same => exact ⟨other, inside, .same other⟩
  | reference => cases inside
  | schema one held =>
    simp only [Keyword.ofSchema, List.mem_cons, List.not_mem_nil, or_false] at one
    rcases one with rfl | rfl | rfl <;> cases List.mem_singleton.mp inside <;>
      exact ⟨_, List.mem_singleton_self _, held⟩
  | schemas several each =>
    simp only [Keyword.ofSchemas, List.mem_cons, List.not_mem_nil, or_false] at several
    rcases several with rfl | rfl | rfl <;> exact exists_of_mem_right each inside
  | named several each =>
    simp only [Keyword.ofNamedSchemas, FormSchema.definitionKeywords, List.mem_append, List.mem_cons,
      List.not_mem_nil, or_false] at several
    rcases several with rfl | rfl | rfl
    · obtain ⟨entry, listed, rfl⟩ := List.mem_map.mp inside
      obtain ⟨_, member, _, held⟩ := each.exists_of_mem_right listed
      exact ⟨_, List.mem_map_of_mem member, held⟩
    · cases inside
    · cases inside

/-- At the place of a schema in a variant there is an object with the keys of one in the document. -/
theorem Document.HasPart.exists_of_variant {part : Members} (place : other.HasPart part)
    (variant : Document.Variant respelled order document other) :
    ∃ source, document.HasPart source ∧ (Members.keys source).Perm (Members.keys part) := by
  induction place generalizing document with
  | itself members =>
    cases variant with
    | same => exact ⟨members, .itself members, .refl _⟩
    | object matched => exact ⟨_, .itself _, matched.perm_keys fun _ _ => MemberVariant.key_eq⟩
  | @within members part child held nested ih =>
    cases variant with
    | same => exact ⟨part, .within held nested, .refl _⟩
    | object matched =>
      obtain ⟨result, present, inside⟩ := held
      obtain ⟨member, listed, variant⟩ := matched.exists_of_mem_right present
      obtain ⟨document, stands, variant⟩ := variant.exists_of_mem_schemas inside
      obtain ⟨source, place, same⟩ := ih variant
      exact ⟨source, .within ⟨member, listed, stands⟩ place, same⟩

theorem Document.HasBareReferences.of_variant (bare : document.HasBareReferences)
    (variant : Document.Variant respelled order document other) : other.HasBareReferences := by
  intro part place refers key listed
  obtain ⟨source, place, same⟩ := place.exists_of_variant variant
  exact bare source place (same.symm.subset refers) key (same.symm.subset listed)

theorem Members.HaveBareReferences.of_variant {definitions others : Members}
    (bare : definitions.HaveBareReferences)
    (defined : ∀ name, Option.Rel (Document.Variant respelled order) (find? definitions name)
      (find? others name)) : others.HaveBareReferences := by
  intro name definition found
  have known := defined name
  rw [found] at known
  cases written : find? definitions name with
  | none =>
    rw [written] at known
    cases known
  | some original =>
    rw [written] at known
    cases known with
    | some variant => exact (bare name original written).of_variant variant

end Variants

namespace Loader

variable {loader : Loader} {members : Members} {expanding : List String}

/-- A bare reference is expanded to its definition as it is, unless it is refused. -/
theorem expand_of_bare (loader : Loader) (expanding : List String) (bare : members.IsBare) {reference : Document}
    (refers : members.find? "$ref" = some reference) (path : String) :
    (∃ error, loader.expand expanding path reference members = .error error ∧
        error.fault.faultClass ≠ .cyclicReference) ∨
      ∃ text target, loader.resolve? text = some target ∧
        loader.expand [] path reference members = .ok (text, target) ∧
          (loader.expand expanding path reference members = .ok (text, target) ∨
            text ∈ expanding ∧
              ∃ error, loader.expand expanding path reference members = .error error) := by
  simp only [expand, bare.without_eq_nil refers, List.contains_nil, Bool.false_eq_true, if_false]
  split
  · exact .inl ⟨_, rfl, by rintro ⟨⟩⟩
  · next text _ =>
    split
    · exact .inl ⟨_, rfl, by rintro ⟨⟩⟩
    · next target resolves =>
      refine .inr ⟨text, target, resolves, rfl, ?_⟩
      split_ifs with repeated
      · exact .inr ⟨by simpa using repeated, _, rfl⟩
      · exact .inl rfl

end Loader

end Intake
