import Intake.Proofs.Document.Members

/-! # Well-formed documents

A document is well formed when every key of an object in it comes once and every integer in it is
one of a 64-bit word. Parts of a well-formed document and objects written into each other stay so,
and a well-formed document is the same as itself.
-/

namespace Intake

/-- An integer is one of a signed or an unsigned 64-bit word. -/
def Number.inRange : Number → Bool
  | .integer value => fitsSigned value || fitsUnsigned value
  | .real _ => true

namespace Document

mutual

/-- Keys of an object come once, and integers are ones of a 64-bit word. -/
def wellFormed : Document → Bool
  | .number value => value.inRange
  | .array items => wellFormedItems items
  | .object members => (Members.keys members).Nodup && wellFormedMembers members
  | .null | .bool _ | .string _ => true

/-- Every item of a list is well formed. -/
def wellFormedItems : List Document → Bool
  | [] => true
  | item :: items => wellFormed item && wellFormedItems items

/-- Every value of an object is well formed. -/
def wellFormedMembers : List (String × Document) → Bool
  | [] => true
  | (_, value) :: members => wellFormed value && wellFormedMembers members

end

private theorem wellFormedItems_iff {items : List Document} :
    wellFormedItems items ↔ ∀ item ∈ items, item.wellFormed := by
  induction items with
  | nil => simp [wellFormedItems]
  | cons item items ih => simp [wellFormedItems, ih]

private theorem wellFormedMembers_iff {members : Members} :
    wellFormedMembers members ↔ ∀ member ∈ members, member.2.wellFormed := by
  induction members with
  | nil => simp [wellFormedMembers]
  | cons member members ih => simp [wellFormedMembers, ih]

theorem wellFormed_array {items : List Document} :
    (array items).wellFormed ↔ ∀ item ∈ items, item.wellFormed := by
  rw [wellFormed, wellFormedItems_iff]

theorem wellFormed_object {members : Members} :
    (object members).wellFormed ↔
      (Members.keys members).Nodup ∧ ∀ member ∈ members, member.2.wellFormed := by
  rw [wellFormed, Bool.and_eq_true, wellFormedMembers_iff, decide_eq_true_iff]

theorem wellFormed_of_mem_items? {document item : Document} (sound : document.wellFormed)
    (member : item ∈ document.items?.getD []) : item.wellFormed := by
  cases document with
  | array items => exact wellFormed_array.mp sound item member
  | _ => cases member

theorem wellFormed_of_mem_members? {document value : Document} (sound : document.wellFormed)
    (member : value ∈ (document.members?.getD []).map (·.2)) : value.wellFormed := by
  cases document with
  | object members =>
    obtain ⟨entry, listed, rfl⟩ := List.mem_map.mp member
    exact (wellFormed_object.mp sound).2 entry listed
  | _ => cases member

theorem wellFormed_of_find? {members : Members} (sound : (object members).wellFormed) {key : String}
    {value : Document} (found : Members.find? members key = some value) : value.wellFormed :=
  (wellFormed_object.mp sound).2 _ (Members.mem_of_find?_eq_some found)

/-- Members written into others make up a well-formed object again. -/
theorem wellFormed_insertAll {members additions : Members} (sound : (object members).wellFormed)
    (also : (object additions).wellFormed) : (object (members.insertAll additions)).wellFormed := by
  rw [wellFormed_object] at sound also ⊢
  refine ⟨Members.nodup_keys_insertAll sound.1 _, ?_⟩
  intro member present
  rcases Members.mem_of_mem_insertAll present with old | new
  · exact sound.2 member old
  · exact also.2 member new

theorem wellFormed_without {members : Members} (sound : (object members).wellFormed)
    (left : List String) : (object (members.without left)).wellFormed := by
  rw [wellFormed_object] at sound ⊢
  refine ⟨sound.1.sublist (Members.keys_without_sublist members left), ?_⟩
  intro member present
  exact sound.2 member (List.mem_filter.mp present).1

private theorem Number.same_refl (number : Number) : number.same number := by
  cases number <;> simp [Number.same, Binary64.sameValue]

mutual

theorem same_refl : ∀ {document : Document}, document.wellFormed → document.same document
  | .null, _ => rfl
  | .bool _, _ => by simp [same]
  | .number value, _ => Number.same_refl value
  | .string _, _ => by simp [same]
  | .array items, sound => sameItems_refl (wellFormedItems_iff.mp sound)
  | .object members, sound => by
    have parts := wellFormed_object.mp sound
    rw [same, Bool.and_eq_true]
    refine ⟨beq_self_eq_true _, membersWithin_of_find? parts.2 ?_⟩
    intro member present
    exact Members.find?_eq_some_of_mem parts.1 present

private theorem sameItems_refl : ∀ {items : List Document}, (∀ item ∈ items, item.wellFormed) →
    sameItems items items
  | [], _ => rfl
  | item :: items, sound => by
    rw [sameItems, Bool.and_eq_true]
    exact ⟨same_refl (sound item (List.mem_cons_self ..)),
      sameItems_refl fun other present => sound other (List.mem_cons_of_mem _ present)⟩

/-- Members that are found in an object under their keys are the same there. -/
theorem membersWithin_of_find? : ∀ {members all : Members},
    (∀ member ∈ members, member.2.wellFormed) →
    (∀ member ∈ members, Members.find? all member.1 = some member.2) → membersWithin members all
  | [], _, _, _ => rfl
  | (key, value) :: members, all, sound, found => by
    rw [membersWithin, found _ (List.mem_cons_self ..), Bool.and_eq_true]
    exact ⟨same_refl (sound _ (List.mem_cons_self ..)),
      membersWithin_of_find? (fun other present => sound other (List.mem_cons_of_mem _ present))
        fun other present => found other (List.mem_cons_of_mem _ present)⟩

end

end Document

end Intake
