import Intake.Dictionary
import Mathlib.Algebra.Order.Ring.Nat
import Mathlib.Data.List.Induction
import Mathlib.Data.List.Nodup
import Mathlib.Data.String.Basic

/-! # Dictionaries are ascending

Writing entries one after the other keeps the keys in strictly ascending order, so every key comes
once and a dictionary that is written anew comes out unchanged. Entries with distinct keys are all
found again.
-/

namespace Intake.Dictionary

variable {α : Type}

/-- The keys come in strictly ascending order. -/
def Ascending (dictionary : Dictionary α) : Prop := (keys dictionary).Pairwise (· < ·)

theorem Ascending.nodup {dictionary : Dictionary α} (ascending : Ascending dictionary) :
    (keys dictionary).Nodup :=
  ascending.imp fun less => ne_of_lt less

private theorem mem_keys_insert {dictionary : Dictionary α} {key other : String} {value : α} :
    other ∈ keys (insert dictionary key value) ↔ other = key ∨ other ∈ keys dictionary := by
  induction dictionary with
  | nil => simp [insert, keys]
  | cons entry rest ih =>
    obtain ⟨name, old⟩ := entry
    simp only [keys] at ih
    simp only [insert]
    split_ifs with before same
    · simp [keys]
    · simp [keys, same]
    · simp only [keys, List.map_cons, List.mem_cons, ih]
      exact or_left_comm

private theorem Ascending.insert {dictionary : Dictionary α} (ascending : Ascending dictionary)
    (key : String) (value : α) : Ascending (insert dictionary key value) := by
  induction dictionary with
  | nil => exact List.pairwise_singleton _ _
  | cons entry rest ih =>
    obtain ⟨name, old⟩ := entry
    obtain ⟨least, tail⟩ := List.pairwise_cons.mp ascending
    simp only [Dictionary.insert]
    split_ifs with before same
    · refine List.pairwise_cons.mpr ⟨?_, ascending⟩
      intro other member
      rcases List.mem_cons.mp member with rfl | later
      · exact before
      · exact before.trans (least other later)
    · subst same
      exact ascending
    · refine List.pairwise_cons.mpr ⟨?_, ih tail⟩
      intro other member
      rcases mem_keys_insert.mp member with rfl | later
      · exact lt_of_le_of_ne (not_lt.mp before) (Ne.symm same)
      · exact least other later

theorem ascending_ofList (entries : List (String × α)) : Ascending (ofList entries) := by
  have step : ∀ written : Dictionary α, Ascending written →
      Ascending (entries.foldl (fun written entry => written.insert entry.1 entry.2) written) := by
    induction entries with
    | nil => exact fun written ascending => ascending
    | cons entry rest ih => exact fun written ascending => ih _ (ascending.insert ..)
  exact step [] List.Pairwise.nil

/-- A key beyond all others goes to the end. -/
theorem insert_of_last {dictionary : Dictionary α} {key : String}
    (last : ∀ other ∈ keys dictionary, other < key) (value : α) :
    insert dictionary key value = dictionary ++ [(key, value)] := by
  induction dictionary with
  | nil => rfl
  | cons entry rest ih =>
    have less : entry.1 < key := last _ (List.mem_cons_self ..)
    rw [insert, if_neg less.not_gt, if_neg less.ne',
      ih fun other member => last other (List.mem_cons_of_mem _ member), List.cons_append]

/-- An ascending dictionary is written as it is. -/
theorem ofList_of_ascending {dictionary : Dictionary α} (ascending : Ascending dictionary) :
    ofList dictionary = dictionary := by
  have step : ∀ rest written : Dictionary α, Ascending (written ++ rest) →
      rest.foldl (fun written entry => written.insert entry.1 entry.2) written = written ++ rest := by
    intro rest
    induction rest with
    | nil => exact fun written _ => (List.append_nil written).symm
    | cons entry rest ih =>
      intro written ordered
      have last : ∀ other ∈ keys written, other < entry.1 := by
        rw [Ascending, keys, List.map_append, List.pairwise_append] at ordered
        exact fun other member => ordered.2.2 other member _ (List.mem_cons_self ..)
      rw [List.foldl_cons, insert_of_last last, ih _ (by simpa using ordered)]
      simp
  exact step dictionary [] ascending

/-- What is in a dictionary was written there or was in it before. -/
theorem mem_of_mem_insert {dictionary : Dictionary α} {key : String} {value : α}
    {entry : String × α} (member : entry ∈ insert dictionary key value) :
    entry = (key, value) ∨ entry ∈ dictionary := by
  induction dictionary with
  | nil => exact .inl (List.mem_singleton.mp member)
  | cons head rest ih =>
    rw [insert] at member
    split_ifs at member
    · exact List.mem_cons.mp member
    · exact (List.mem_cons.mp member).imp_right (List.mem_cons_of_mem _)
    · rcases List.mem_cons.mp member with rfl | later
      · exact .inr (List.mem_cons_self ..)
      · exact (ih later).imp_right (List.mem_cons_of_mem _)

theorem mem_of_mem_ofList {entries : List (String × α)} {entry : String × α}
    (member : entry ∈ ofList entries) : entry ∈ entries := by
  induction entries using List.reverseRecOn with
  | nil => exact member
  | append_singleton entries last ih =>
    rw [ofList, List.foldl_append] at member
    rw [List.mem_append, List.mem_singleton]
    rcases mem_of_mem_insert member with new | old
    · exact .inr new
    · exact .inl (ih old)

private theorem find?_cons (name : String) (value : α) (rest : Dictionary α) (key : String) :
    find? ((name, value) :: rest) key = if name = key then some value else find? rest key := by
  by_cases same : name = key <;> simp [find?, same]

private theorem find?_insert (dictionary : Dictionary α) (key : String) (value : α) (other : String) :
    find? (insert dictionary key value) other =
      if key = other then some value else find? dictionary other := by
  induction dictionary with
  | nil => rw [insert, find?_cons]
  | cons entry rest ih =>
    obtain ⟨name, old⟩ := entry
    by_cases before : key < name
    · rw [insert, if_pos before, find?_cons]
    · by_cases same : key = name
      · subst same
        rw [insert, if_neg before, if_pos rfl, find?_cons, find?_cons]
        split_ifs <;> rfl
      · rw [insert, if_neg before, if_neg same, find?_cons, find?_cons, ih]
        by_cases found : key = other
        · subst found
          rw [if_neg (Ne.symm same), if_pos rfl, if_pos rfl]
        · rw [if_neg found, if_neg found]

/-- Of several entries with one key the last one counts. -/
theorem find?_ofList_append (entries : List (String × α)) (key : String) (value : α)
    (other : String) :
    find? (ofList (entries ++ [(key, value)])) other =
      if key = other then some value else find? (ofList entries) other := by
  rw [ofList, List.foldl_append]
  exact find?_insert ..

/-- Entries with distinct keys are all found. -/
theorem find?_ofList_of_mem {entries : List (String × α)} (distinct : (entries.map (·.1)).Nodup)
    {key : String} {value : α} (member : (key, value) ∈ entries) :
    find? (ofList entries) key = some value := by
  induction entries using List.reverseRecOn with
  | nil => cases member
  | append_singleton entries entry ih =>
    rw [List.map_append, List.nodup_append] at distinct
    rw [find?_ofList_append]
    rcases List.mem_append.mp member with earlier | last
    · have other : entry.1 ≠ key :=
        (distinct.2.2 _ (List.mem_map_of_mem earlier) _ (by simp)).symm
      rw [if_neg other, ih distinct.1 earlier]
    · rw [List.mem_singleton] at last
      rw [← last, if_pos rfl]

/-- A key is counted once, and not with a value that was written over. -/
theorem sum_insert_le (cost : α → Nat) (dictionary : Dictionary α) (key : String) (value : α) :
    ((insert dictionary key value).map fun entry => cost entry.2).sum ≤
      (dictionary.map fun entry => cost entry.2).sum + cost value := by
  induction dictionary with
  | nil => simp [insert]
  | cons entry rest ih =>
    obtain ⟨name, old⟩ := entry
    rw [insert]
    split_ifs <;> simp only [List.map_cons, List.sum_cons]
    · omega
    · omega
    · omega

theorem sum_ofList_le (cost : α → Nat) (entries : List (String × α)) :
    ((ofList entries).map fun entry => cost entry.2).sum ≤
      (entries.map fun entry => cost entry.2).sum := by
  induction entries using List.reverseRecOn with
  | nil => exact le_refl _
  | append_singleton entries entry ih =>
    have last := sum_insert_le cost (ofList entries) entry.1 entry.2
    have step : ofList (entries ++ [entry]) = insert (ofList entries) entry.1 entry.2 := by
      rw [ofList, List.foldl_append]
      rfl
    rw [step, List.map_append, List.sum_append, List.map_singleton, List.sum_singleton]
    omega

theorem mem_of_find?_eq_some {dictionary : Dictionary α} {key : String} {value : α}
    (found : find? dictionary key = some value) : (key, value) ∈ dictionary := by
  obtain ⟨entry, first, rfl⟩ := Option.map_eq_some_iff.mp found
  have same : entry.1 = key := by simpa using List.find?_some first
  rw [← same]
  exact List.mem_of_find?_eq_some first

theorem find?_eq_some_of_mem {dictionary : Dictionary α} (distinct : (keys dictionary).Nodup)
    {key : String} {value : α} (member : (key, value) ∈ dictionary) :
    find? dictionary key = some value := by
  induction dictionary with
  | nil => cases member
  | cons entry rest ih =>
    rw [keys, List.map_cons, List.nodup_cons] at distinct
    rcases List.mem_cons.mp member with rfl | later
    · rw [find?_cons, if_pos rfl]
    · have other : entry.1 ≠ key := by
        rintro rfl
        exact distinct.1 (List.mem_map.mpr ⟨_, later, rfl⟩)
      rw [find?_cons, if_neg other, ih distinct.2 later]

theorem mem_keys_ofList {entries : List (String × α)} {key : String} :
    key ∈ keys (ofList entries) ↔ key ∈ entries.map (·.1) := by
  induction entries using List.reverseRecOn with
  | nil => rfl
  | append_singleton entries entry ih =>
    have step : ofList (entries ++ [entry]) = insert (ofList entries) entry.1 entry.2 := by
      rw [ofList, List.foldl_append]
      rfl
    rw [step, mem_keys_insert, ih]
    simp [or_comm]

private theorem mem_ofList_iff {entries : List (String × α)} (distinct : (entries.map (·.1)).Nodup)
    {entry : String × α} : entry ∈ ofList entries ↔ entry ∈ entries :=
  ⟨mem_of_mem_ofList, fun member => mem_of_find?_eq_some (find?_ofList_of_mem distinct member)⟩

/-- Entries with distinct keys are sorted and none of them is lost. -/
theorem perm_ofList {entries : List (String × α)} (distinct : (entries.map (·.1)).Nodup) :
    (ofList entries).Perm entries := by
  have nodup : (ofList entries).Nodup := (ascending_ofList entries).nodup.of_map _
  rw [List.perm_ext_iff_of_nodup nodup (distinct.of_map _)]
  exact fun entry => mem_ofList_iff distinct

/-- Entries with distinct keys are written in whatever order to the same dictionary. -/
theorem ofList_eq_of_perm {entries moved : List (String × α)} (distinct : (entries.map (·.1)).Nodup)
    (perm : entries.Perm moved) : ofList entries = ofList moved := by
  have also : (moved.map (·.1)).Nodup := (perm.map _).nodup_iff.mp distinct
  have same : (ofList entries).Perm (ofList moved) :=
    (perm_ofList distinct).trans (perm.trans (perm_ofList also).symm)
  have sorted (entries : List (String × α)) :
      (ofList entries).Pairwise fun entry other => entry.1 < other.1 :=
    List.pairwise_map.mp (ascending_ofList entries)
  exact same.eq_of_pairwise (fun _ _ _ _ less more => absurd less more.not_gt) (sorted _) (sorted _)

end Intake.Dictionary
