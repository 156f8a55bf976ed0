import Intake.Document.Basic
import Mathlib.Data.List.Nodup

/-! # Reading documents and writing members

Each view of a document gives what stands in the documents of one kind, and `Members.find?` is the only
view that readers take of an object. Each way to build members (side by side, one written into others,
some left out) is described by its effect on that view and on the keys. Writing a list into itself
changes nothing as soon as its keys are distinct.
-/

namespace Intake

namespace Document

theorem string?_eq_some_iff {document : Document} {value : String} :
    document.string? = some value ↔ document = string value := by
  cases document <;> simp [string?]

theorem bool?_eq_some_iff {document : Document} {value : Bool} :
    document.bool? = some value ↔ document = bool value := by
  cases document <;> simp [bool?]

theorem number?_eq_some_iff {document : Document} {value : Number} :
    document.number? = some value ↔ document = number value := by
  cases document <;> simp [number?]

theorem items?_eq_some_iff {document : Document} {items : List Document} :
    document.items? = some items ↔ document = array items := by
  cases document <;> simp [items?]

theorem members?_eq_some_iff {document : Document} {members : Members} :
    document.members? = some members ↔ document = object members := by
  cases document <;> simp [members?]

end Document

namespace Members

@[simp]
theorem find?_nil (key : String) : find? [] key = none := rfl

@[simp]
theorem find?_cons (name : String) (value : Document) (rest : Members) (key : String) :
    find? ((name, value) :: rest) key = if name = key then some value else find? rest key := by
  by_cases same : name = key <;> simp [find?, same]

@[simp]
theorem find?_append (first second : Members) (key : String) :
    find? (first ++ second) key = (find? first key).or (find? second key) := by
  induction first with
  | nil => rfl
  | cons member rest ih =>
    rw [List.cons_append, find?_cons, find?_cons, ih]
    split <;> rfl

@[simp]
theorem find?_optional (name : String) (value : Option Document) (key : String) :
    find? (optional name value) key = if name = key then value else none := by
  cases value <;> simp [optional]

@[simp]
theorem find?_flag (name : String) (value : Bool) (key : String) :
    find? (flag name value) key = if name = key ∧ value then some (.bool true) else none := by
  cases value <;> simp [flag]

@[simp]
theorem find?_list (name : String) (items : List Document) (key : String) :
    find? (list name items) key = if name = key ∧ items ≠ [] then some (.array items) else none := by
  cases items <;> simp [list]

@[simp]
theorem find?_nested (name : String) (members : Members) (key : String) :
    find? (nested name members) key =
      if name = key ∧ members ≠ [] then some (.object members) else none := by
  cases members <;> simp [nested]

theorem mem_of_find?_eq_some {members : Members} {key : String} {value : Document}
    (found : find? members key = some value) : (key, value) ∈ members := by
  induction members with
  | nil => cases found
  | cons member rest ih =>
    rw [find?_cons] at found
    split_ifs at found with same
    · cases found
      subst same
      exact List.mem_cons_self ..
    · exact List.mem_cons_of_mem _ (ih found)

theorem find?_eq_none_iff {members : Members} {key : String} :
    find? members key = none ↔ key ∉ keys members := by
  induction members with
  | nil => simp [keys]
  | cons member rest ih =>
    rw [find?_cons]
    split_ifs with same
    · simp [keys, same]
    · simpa [keys, Ne.symm same] using ih

theorem contains_eq_isSome (members : Members) (key : String) :
    contains members key = (find? members key).isSome := by
  rw [find?, Option.isSome_map, List.isSome_find?, contains]

/-- With distinct keys every member is found under its key. -/
theorem find?_eq_some_of_mem {members : Members} (distinct : (keys members).Nodup)
    {key : String} {value : Document} (member : (key, value) ∈ members) :
    find? members key = some value := by
  induction members with
  | nil => cases member
  | cons head rest ih =>
    rw [keys, List.map_cons, List.nodup_cons] at distinct
    rw [find?_cons]
    rcases List.mem_cons.mp member with rfl | later
    · simp
    · have other : head.1 ≠ key := by
        rintro rfl
        exact distinct.1 (List.mem_map.mpr ⟨_, later, rfl⟩)
      rw [if_neg other]
      exact ih distinct.2 later

private theorem keys_insert (members : Members) (key : String) (value : Document) :
    keys (insert members key value) =
      if key ∈ keys members then keys members else keys members ++ [key] := by
  induction members with
  | nil => rfl
  | cons member rest ih =>
    obtain ⟨name, old⟩ := member
    by_cases same : name = key
    · simp [insert, keys, same]
    · have other : key ≠ name := Ne.symm same
      simp only [keys, insert, if_neg same, List.map_cons, List.mem_cons, other, false_or] at ih ⊢
      rw [ih]
      by_cases present : key ∈ rest.map (·.1) <;> simp [present]

private theorem nodup_keys_insert {members : Members} (distinct : (keys members).Nodup) (key : String)
    (value : Document) : (keys (insert members key value)).Nodup := by
  rw [keys_insert]
  split_ifs with present
  · exact distinct
  · exact distinct.append (List.nodup_singleton key) (by simpa using present)

theorem nodup_keys_insertAll {members : Members} (distinct : (keys members).Nodup)
    (additions : Members) : (keys (insertAll members additions)).Nodup := by
  induction additions generalizing members with
  | nil => exact distinct
  | cons addition rest ih => exact ih (nodup_keys_insert distinct ..)

theorem nodup_keys_ofList (members : Members) : (keys (ofList members)).Nodup := by
  have distinct : (keys []).Nodup := List.nodup_nil
  exact nodup_keys_insertAll distinct members

private theorem mem_of_mem_insert {members : Members} {key : String} {value : Document}
    {member : String × Document} (present : member ∈ insert members key value) :
    member = (key, value) ∨ member ∈ members := by
  induction members with
  | nil => exact .inl (List.mem_singleton.mp present)
  | cons head rest ih =>
    rw [insert] at present
    split_ifs at present with same
    · subst same
      exact (List.mem_cons.mp present).imp_right (List.mem_cons_of_mem _)
    · rcases List.mem_cons.mp present with rfl | later
      · exact .inr (List.mem_cons_self ..)
      · exact (ih later).imp_right (List.mem_cons_of_mem _)

/-- Whatever is written comes from one of the two sides. -/
theorem mem_of_mem_insertAll {members additions : Members} {member : String × Document}
    (present : member ∈ insertAll members additions) : member ∈ members ∨ member ∈ additions := by
  induction additions generalizing members with
  | nil => exact .inl present
  | cons addition rest ih =>
    rcases ih present with inserted | later
    · rcases mem_of_mem_insert inserted with rfl | kept
      · exact .inr (List.mem_cons_self ..)
      · exact .inl kept
    · exact .inr (List.mem_cons_of_mem _ later)

private theorem find?_insert_of_ne {members : Members} {name key : String} (other : name ≠ key)
    (value : Document) : find? (insert members name value) key = find? members key := by
  induction members with
  | nil => simp [insert, other]
  | cons member rest ih =>
    rw [insert]
    split_ifs with same
    · rw [find?_cons, find?_cons, same, if_neg other, if_neg other]
    · rw [find?_cons, find?_cons, ih]

/-- Under a key that is not written anew, everything stays as it was. -/
theorem find?_insertAll_of_notMem {members additions : Members} {key : String}
    (absent : key ∉ keys additions) : find? (insertAll members additions) key = find? members key := by
  induction additions generalizing members with
  | nil => rfl
  | cons addition rest ih =>
    rw [keys, List.map_cons, List.mem_cons, not_or] at absent
    exact (ih absent.2).trans (find?_insert_of_ne (Ne.symm absent.1) _)

private theorem find?_insert_self (members : Members) (key : String) (value : Document) :
    find? (insert members key value) key = some value := by
  induction members with
  | nil => simp [insert]
  | cons member rest ih =>
    rw [insert]
    split_ifs with same
    · rw [find?_cons, if_pos same]
    · rw [find?_cons, if_neg same, ih]

/-- What is written under a key replaces what the key had. -/
theorem find?_insertAll {members additions : Members} (distinct : (keys additions).Nodup)
    (key : String) :
    find? (insertAll members additions) key = (find? additions key).or (find? members key) := by
  induction additions generalizing members with
  | nil => rfl
  | cons addition rest ih =>
    obtain ⟨name, value⟩ := addition
    rw [keys, List.map_cons, List.nodup_cons] at distinct
    have step : find? (insertAll (members.insert name value) rest) key = _ := ih distinct.2
    rw [find?_cons]
    split_ifs with same
    · subst same
      rw [find?_eq_none_iff.mpr distinct.1, find?_insert_self] at step
      exact step
    · rw [find?_insert_of_ne same] at step
      exact step

private theorem insert_of_notMem {members : Members} {key : String} (absent : key ∉ keys members)
    (value : Document) : insert members key value = members ++ [(key, value)] := by
  induction members with
  | nil => rfl
  | cons member rest ih =>
    rw [keys, List.map_cons, List.mem_cons, not_or] at absent
    rw [insert, if_neg (Ne.symm absent.1), ih absent.2, List.cons_append]

private theorem insertAll_of_nodup {members additions : Members}
    (distinct : (keys (members ++ additions)).Nodup) :
    insertAll members additions = members ++ additions := by
  induction additions generalizing members with
  | nil => exact (List.append_nil members).symm
  | cons addition rest ih =>
    have absent : addition.1 ∉ keys members := by
      rw [keys, List.map_append, List.nodup_append] at distinct
      intro present
      exact distinct.2.2 _ present _ (List.mem_map_of_mem (List.mem_cons_self ..)) rfl
    change insertAll (insert members addition.1 addition.2) rest = _
    rw [insert_of_notMem absent, ih (by simpa using distinct)]
    simp

theorem ofList_of_nodup {members : Members} (distinct : (keys members).Nodup) :
    ofList members = members :=
  insertAll_of_nodup distinct

theorem keys_without_sublist (members : Members) (left : List String) :
    (keys (members.without left)).Sublist (keys members) :=
  List.filter_sublist.map _

theorem find?_without (members : Members) (left : List String) (key : String) :
    find? (members.without left) key = if key ∈ left then none else find? members key := by
  induction members with
  | nil => simp [without]
  | cons member rest ih =>
    obtain ⟨name, value⟩ := member
    by_cases dropped : name ∈ left
    · have step : without ((name, value) :: rest) left = without rest left := by
        simp [without, dropped]
      rw [step, ih, find?_cons]
      split_ifs with absent same
      · rfl
      · exact absurd (same ▸ dropped) absent
      · rfl
    · have step : without ((name, value) :: rest) left = (name, value) :: without rest left := by
        simp [without, dropped]
      rw [step, find?_cons, find?_cons, ih]
      split_ifs with same absent
      · exact absurd (same ▸ absent) dropped
      · rfl
      · rfl
      · rfl

theorem mem_keys_without {members : Members} {left : List String} {key : String} :
    key ∈ keys (members.without left) ↔ key ∈ keys members ∧ key ∉ left := by
  simp only [keys, without, List.mem_map, List.mem_filter]
  constructor
  · rintro ⟨member, ⟨present, kept⟩, rfl⟩
    exact ⟨⟨member, present, rfl⟩, by simpa using kept⟩
  · rintro ⟨⟨member, present, rfl⟩, kept⟩
    exact ⟨member, ⟨present, by simpa using kept⟩, rfl⟩

theorem without_append (first second : Members) (left : List String) :
    (first ++ second).without left = first.without left ++ second.without left :=
  List.filter_append ..

/-- Nothing is left out under keys that are not there. -/
theorem without_eq_self {members : Members} {left : List String}
    (absent : ∀ key ∈ left, find? members key = none) : members.without left = members := by
  rw [without, List.filter_eq_self]
  intro member present
  simp only [Bool.not_eq_true', List.contains_eq_mem, decide_eq_false_iff_not]
  intro dropped
  exact find?_eq_none_iff.mp (absent _ dropped) (List.mem_map_of_mem present)

end Members

end Intake
