import Intake.Proofs.Document.WellFormed
import Intake.Proofs.Related
import Intake.Schema.FormSchema
import Mathlib.Data.List.Perm.Basic

/-! # Variants of a schema document

Two documents may hold the same schemas though their texts differ: the keys of an object may come in
another order, and a reference may be spelled in another way. A variant of a document is one that
differs from it in this and nowhere but in schemas: what is listed as a choice or given as a default
is the same in both. Looked up by its keys, an object and its variant differ at most in the references
and in the schemas under a key, and so do what the two stand for when a reference is expanded.
-/

namespace Intake

open Members (find?)

/-- Whether the members of an object may change places. -/
inductive KeyOrder where
  | kept
  | free

/-- The items of the first list, moved around if the order is free, are related to those of the second
one by one. -/
inductive KeyOrder.Matches {α β : Type} (related : α → β → Prop) : KeyOrder → List α → List β → Prop
  | kept {items : List α} {others : List β} (each : List.Forall₂ related items others) :
      Matches related .kept items others
  | free {items moved : List α} {others : List β} (perm : items.Perm moved)
      (each : List.Forall₂ related moved others) : Matches related .free items others

namespace KeyOrder.Matches

variable {α β : Type} {order : KeyOrder} {items : List α} {others : List β} {related : α → β → Prop}

theorem of_forall₂ (each : List.Forall₂ related items others) : order.Matches related items others := by
  cases order with
  | kept => exact .kept each
  | free => exact .free (.refl items) each

theorem exists_perm (each : order.Matches related items others) :
    ∃ moved, items.Perm moved ∧ List.Forall₂ related moved others := by
  cases each with
  | kept each => exact ⟨items, .refl items, each⟩
  | free perm each => exact ⟨_, perm, each⟩

theorem forall₂ (each : KeyOrder.kept.Matches related items others) : List.Forall₂ related items others := by
  cases each with
  | kept each => exact each

theorem imp_of_mem {fits : α → β → Prop} (each : order.Matches related items others)
    (imp : ∀ a ∈ items, ∀ b ∈ others, related a b → fits a b) : order.Matches fits items others := by
  cases each with
  | kept each => exact .kept (forall₂_imp_of_mem each imp)
  | free perm each =>
    exact .free perm (forall₂_imp_of_mem each fun a member => imp a (perm.symm.subset member))

theorem imp {fits : α → β → Prop} (each : order.Matches related items others)
    (imp : ∀ a b, related a b → fits a b) : order.Matches fits items others :=
  each.imp_of_mem fun a _ b _ => imp a b

theorem exists_of_mem_right (each : order.Matches related items others) {other : β}
    (present : other ∈ others) : ∃ item ∈ items, related item other := by
  obtain ⟨moved, perm, each⟩ := each.exists_perm
  obtain ⟨item, member, held⟩ := Intake.exists_of_mem_right each present
  exact ⟨item, perm.symm.subset member, held⟩

end KeyOrder.Matches

/-- The two entries have one key, and what they hold is related. -/
inductive SameKey {α β : Type} (related : α → β → Prop) : String × α → String × β → Prop
  | intro (key : String) {value : α} {other : β} (held : related value other) :
      SameKey related (key, value) (key, other)

namespace SameKey

variable {α β : Type} {related : α → β → Prop}

theorem key_eq {entry : String × α} {other : String × β} (same : SameKey related entry other) :
    entry.1 = other.1 := by
  cases same
  rfl

theorem held {key : String} {value : α} {other : β} (same : SameKey related (key, value) (key, other)) :
    related value other := by
  cases same with
  | intro _ held => exact held

end SameKey

/-- Entries that match, and have one key each, have the same keys. -/
theorem KeyOrder.Matches.perm_keys {α β : Type} {related : String × α → String × β → Prop}
    {order : KeyOrder} {entries : List (String × α)} {others : List (String × β)}
    (keyed : ∀ entry other, related entry other → entry.1 = other.1)
    (matched : order.Matches related entries others) :
    (entries.map (·.1)).Perm (others.map (·.1)) := by
  obtain ⟨moved, perm, each⟩ := matched.exists_perm
  have same : List.Forall₂ Eq (moved.map (·.1)) (others.map (·.1)) := by
    rw [List.forall₂_map_left_iff, List.forall₂_map_right_iff]
    exact each.imp keyed
  rw [List.forall₂_eq_eq_eq] at same
  exact same ▸ perm.map _

namespace Keyword

/-- The keywords with one schema. -/
def ofSchema : List String := ["items", "contains", "additionalProperties"]

/-- The keywords with a list of schemas. -/
def ofSchemas : List String := ["allOf", "anyOf", "oneOf"]

/-- The keywords with schemas that have names. -/
def ofNamedSchemas : List String := ["properties"] ++ FormSchema.definitionKeywords

/-- The keywords under which a variant may differ. -/
def structural : List String := ["$ref"] ++ ofSchema ++ ofSchemas ++ ofNamedSchemas

end Keyword

/-- What a member of an object may be in a variant, where references may be respelled and schemas are
related. -/
inductive MemberVariant (respelled : String → String → Prop) (order : KeyOrder)
    (related : Document → Document → Prop) : String × Document → String × Document → Prop
  | same (member : String × Document) : MemberVariant respelled order related member member
  | reference {text other : String} (alike : respelled text other) :
      MemberVariant respelled order related ("$ref", .string text) ("$ref", .string other)
  | schema {key : String} (one : key ∈ Keyword.ofSchema) {value other : Document}
      (held : related value other) : MemberVariant respelled order related (key, value) (key, other)
  | schemas {key : String} (several : key ∈ Keyword.ofSchemas) {items others : List Document}
      (each : List.Forall₂ related items others) :
      MemberVariant respelled order related (key, .array items) (key, .array others)
  | named {key : String} (several : key ∈ Keyword.ofNamedSchemas) {entries others : Members}
      (each : order.Matches (SameKey related) entries others) :
      MemberVariant respelled order related (key, .object entries) (key, .object others)

/-- The second document is the first one, but for the order of keys in the objects of schemas and the
spelling of their references. -/
inductive Document.Variant (respelled : String → String → Prop) (order : KeyOrder) :
    Document → Document → Prop
  | same (document : Document) : Variant respelled order document document
  | object {members others : Members}
      (each : order.Matches (MemberVariant respelled order (Variant respelled order)) members others) :
      Variant respelled order (.object members) (.object others)

/-- What a member with a given key may hold in an object and in a variant of it. -/
abbrev MemberVariant.Held (respelled : String → String → Prop) (order : KeyOrder) (key : String)
    (value other : Document) : Prop :=
  MemberVariant respelled order (Document.Variant respelled order) (key, value) (key, other)

/-- Under each key the second object has a variant of what the first one has. -/
def Members.Variant (respelled : String → String → Prop) (order : KeyOrder) (members others : Members) :
    Prop :=
  ∀ key, Option.Rel (MemberVariant.Held respelled order key) (find? members key) (find? others key)

variable {respelled : String → String → Prop} {order : KeyOrder}

theorem MemberVariant.key_eq {related : Document → Document → Prop}
    {member other : String × Document} (variant : MemberVariant respelled order related member other) :
    member.1 = other.1 := by
  cases variant <;> rfl

namespace Members

variable {members others target targets : Members}

/-- Objects whose keys come once are looked up alike in whatever order their keys come. -/
theorem find?_eq_of_perm (distinct : (keys members).Nodup) {moved : Members} (perm : members.Perm moved)
    (key : String) : find? members key = find? moved key := by
  have also : (keys moved).Nodup := (perm.map Prod.fst).nodup_iff.mp distinct
  cases found : find? members key with
  | some value => exact (find?_eq_some_of_mem also (perm.subset (mem_of_find?_eq_some found))).symm
  | none =>
    have absent := find?_eq_none_iff.mp found
    refine (find?_eq_none_iff.mpr fun present => absent ?_).symm
    exact (perm.map Prod.fst).symm.subset present

theorem Variant.refl (members : Members) : Variant respelled order members members := by
  intro key
  cases find? members key with
  | none => exact .none
  | some value => exact .some (.same _)

/-- Entries that match, and have one key each, are related under every key. -/
theorem rel_find?_of_matches {related : String × Document → String × Document → Prop}
    (keyed : ∀ member other, related member other → member.1 = other.1)
    (distinct : (keys members).Nodup) (matched : order.Matches related members others) (key : String) :
    Option.Rel (fun value other => related (key, value) (key, other)) (find? members key)
      (find? others key) := by
  obtain ⟨moved, perm, each⟩ := matched.exists_perm
  rw [find?_eq_of_perm distinct perm]
  clear matched perm distinct
  induction each with
  | nil => exact .none
  | @cons member other _ _ held _ ih =>
    obtain ⟨name, value⟩ := member
    obtain ⟨called, result⟩ := other
    have same : name = called := keyed _ _ held
    subst same
    rw [find?_cons, find?_cons]
    split_ifs with here
    · subst here
      exact .some held
    · exact ih

/-- Members that match are variants of each other under every key. -/
theorem Variant.of_matches (distinct : (keys members).Nodup)
    (matched : order.Matches (MemberVariant respelled order (Document.Variant respelled order)) members
      others) : Variant respelled order members others :=
  rel_find?_of_matches (fun _ _ => MemberVariant.key_eq) distinct matched

theorem Variant.without (variant : Variant respelled order members others) (left : List String) :
    Variant respelled order (members.without left) (others.without left) := by
  intro key
  rw [find?_without, find?_without]
  split_ifs
  · exact .none
  · exact variant key

/-- Members beside a reference are written over the same keys of its target and of a variant of it. -/
theorem Variant.insertAll (onto : Variant respelled order target targets)
    (variant : Variant respelled order members others) (distinct : (keys members).Nodup)
    (also : (keys others).Nodup) :
    Variant respelled order (target.insertAll members) (targets.insertAll others) := by
  intro key
  rw [find?_insertAll distinct, find?_insertAll also]
  have known := variant key
  generalize find? members key = value, find? others key = other at known
  cases known with
  | none => exact onto key
  | some held => exact .some held

end Members

/-- A variant of an object is one, and has variants under the same keys. -/
theorem Document.Variant.members? {document other : Document}
    (variant : Document.Variant respelled order document other) (sound : document.wellFormed) :
    Option.Rel (Members.Variant respelled order) document.members? other.members? := by
  cases variant with
  | same =>
    cases document with
    | object members => exact .some (.refl members)
    | _ => exact .none
  | object each => exact .some (.of_matches (Document.wellFormed_object.mp sound).1 each)

private theorem Keyword.apart_of_mem_ofSchema :
    ∀ key ∈ ofSchema, key ≠ "$ref" ∧ key ∉ ofSchemas ∧ key ∉ ofNamedSchemas := by decide

private theorem Keyword.apart_of_mem_ofSchemas :
    ∀ key ∈ ofSchemas, key ≠ "$ref" ∧ key ∉ ofSchema ∧ key ∉ ofNamedSchemas := by decide

private theorem Keyword.apart_of_mem_ofNamedSchemas :
    ∀ key ∈ ofNamedSchemas, key ≠ "$ref" ∧ key ∉ ofSchema ∧ key ∉ ofSchemas := by decide

namespace MemberVariant

variable {key : String} {value other : Document}

theorem eq_of_plain (held : Held respelled order key value other) (plain : key ∉ Keyword.structural) :
    value = other := by
  simp only [Keyword.structural, List.mem_append, List.mem_singleton, not_or] at plain
  obtain ⟨⟨⟨notReference, notOne⟩, notSeveral⟩, notNamed⟩ := plain
  cases held with
  | same => rfl
  | reference => exact absurd rfl notReference
  | schema one => exact absurd one notOne
  | schemas several => exact absurd several notSeveral
  | named several => exact absurd several notNamed

theorem variant (held : Held respelled order key value other) (one : key ∈ Keyword.ofSchema) :
    Document.Variant respelled order value other := by
  obtain ⟨notReference, notSeveral, notNamed⟩ := Keyword.apart_of_mem_ofSchema key one
  cases held with
  | same => exact .same value
  | reference => exact absurd rfl notReference
  | schema _ held => exact held
  | schemas several => exact absurd several notSeveral
  | named several => exact absurd several notNamed

theorem items? (held : Held respelled order key value other) (several : key ∈ Keyword.ofSchemas) :
    Option.Rel (List.Forall₂ (Document.Variant respelled order)) value.items? other.items? := by
  obtain ⟨notReference, notOne, notNamed⟩ := Keyword.apart_of_mem_ofSchemas key several
  cases held with
  | same =>
    cases value with
    | array items => exact .some (List.forall₂_same.mpr fun item _ => .same item)
    | _ => exact .none
  | reference => exact absurd rfl notReference
  | schema one => exact absurd one notOne
  | schemas _ each => exact .some each
  | named several => exact absurd several notNamed

theorem entries? (held : Held respelled order key value other) (several : key ∈ Keyword.ofNamedSchemas) :
    Option.Rel (order.Matches (SameKey (Document.Variant respelled order))) value.members?
      other.members? := by
  obtain ⟨notReference, notOne, notSeveral⟩ := Keyword.apart_of_mem_ofNamedSchemas key several
  cases held with
  | same =>
    cases value with
    | object entries =>
      exact .some (.of_forall₂ (List.forall₂_same.mpr fun entry _ => .intro entry.1 (.same entry.2)))
    | _ => exact .none
  | reference => exact absurd rfl notReference
  | schema one => exact absurd one notOne
  | schemas several => exact absurd several notSeveral
  | named _ each => exact .some each

theorem string? (reflexive : ∀ text, respelled text text)
    (held : Held respelled order "$ref" value other) :
    Option.Rel respelled value.string? other.string? := by
  have apart : "$ref" ∉ Keyword.ofSchema ∧ "$ref" ∉ Keyword.ofSchemas ∧
      "$ref" ∉ Keyword.ofNamedSchemas := by decide
  cases held with
  | same =>
    cases value with
    | string text => exact .some (reflexive text)
    | _ => exact .none
  | reference alike => exact .some alike
  | schema one => exact absurd one apart.1
  | schemas several => exact absurd several apart.2.1
  | named several => exact absurd several apart.2.2

end MemberVariant

end Intake
