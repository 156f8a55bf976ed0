import Intake.Document.Reader
import Intake.Proofs.Document.WellFormed

/-! # Documents that are read are well formed

A literal is an integer only if that is one of a 64-bit word, and settling leaves every key of an
object once. So whatever text a document is read from, it is well formed.
-/

namespace Intake

private theorem Numeral.number?_inRange {numeral : Numeral} {number : Number}
    (denotes : numeral.number? = some number) : number.inRange := by
  rw [number?] at denotes
  split at denotes
  · next value whole =>
    cases denotes
    rw [integer?] at whole
    simp only [Number.inRange, Bool.or_eq_true, fitsSigned, fitsUnsigned, Bool.and_eq_true,
      decide_eq_true_iff]
    split_ifs at whole <;> cases whole <;> omega
  · obtain ⟨x, -, rfl⟩ := Option.map_eq_some_iff.mp denotes
    rfl

namespace Document

/-- A number is in range; other tokens hold none. -/
def Token.inRange : Token → Bool
  | .number value => value.inRange
  | _ => true

private theorem token?_inRange {text rest : List Char} {token : Token}
    (read : token? text = some (token, rest)) : token.inRange := by
  unfold token? at read
  split at read
  case h_7 =>
    obtain ⟨_, -, same⟩ := Option.map_eq_some_iff.mp read
    cases same
    rfl
  case h_11 =>
    obtain ⟨⟨numeral, after⟩, -, read⟩ := Option.bind_eq_some_iff.mp read
    obtain ⟨number, denotes, same⟩ := Option.bind_eq_some_iff.mp read
    cases same
    exact Numeral.number?_inRange denotes
  all_goals
    cases read
    rfl

private theorem tokensWithin_inRange {fuel : Nat} {text : List Char} {tokens : List Token}
    (read : tokensWithin fuel text = some tokens) : ∀ token ∈ tokens, token.inRange := by
  induction fuel generalizing text tokens with
  | zero => cases read
  | succ fuel ih =>
    rw [tokensWithin] at read
    split at read
    · cases read
      exact List.forall_mem_nil _
    · obtain ⟨⟨token, rest⟩, first, read⟩ := Option.bind_eq_some_iff.mp read
      obtain ⟨others, later, same⟩ := Option.bind_eq_some_iff.mp read
      cases same
      exact List.forall_mem_cons.mpr ⟨token?_inRange first, ih later⟩

private theorem settledItems_eq_map (items : List Document) :
    settledItems items = items.map settled := by
  induction items with
  | nil => rfl
  | cons item items ih => rw [settledItems, List.map_cons, ih]

private theorem settledMembers_eq_map (members : Members) :
    settledMembers members = members.map fun member => (member.1, settled member.2) := by
  induction members with
  | nil => rfl
  | cons member members ih => rw [settledMembers, List.map_cons, ih]

/-- A list is well formed once its items are. -/
theorem settled_array {items : List Document} (sound : ∀ item ∈ items, (settled item).wellFormed) :
    (settled (.array items)).wellFormed := by
  rw [settled, settledItems_eq_map, wellFormed_array, List.forall_mem_map]
  exact sound

/-- An object is well formed once its values are, whatever its keys. -/
theorem settled_object {members : Members} (sound : ∀ member ∈ members, (settled member.2).wellFormed) :
    (settled (.object members)).wellFormed := by
  rw [settled, wellFormed_object]
  refine ⟨Members.nodup_keys_ofList _, fun member present => ?_⟩
  rcases Members.mem_of_mem_insertAll present with nowhere | listed
  · cases nowhere
  · rw [settledMembers_eq_map, List.mem_map] at listed
    obtain ⟨original, member, rfl⟩ := listed
    exact sound original member

/-- Reading something fit off the front of tokens with numbers in range leaves such tokens. -/
def Reads {α : Type} (fits : α → Prop) (read? : List Token → Option (α × List Token)) : Prop :=
  ∀ {tokens rest : List Token} {result : α}, (∀ token ∈ tokens, token.inRange) →
    read? tokens = some (result, rest) → fits result ∧ ∀ token ∈ rest, token.inRange

/-- What is read within some fuel is well formed once it is settled. -/
structure ReadsWithin (fuel : Nat) : Prop where
  value : ∀ spare, Reads (fun document => (settled document).wellFormed) (value? fuel spare)
  items : ∀ spare, Reads (fun items => ∀ item ∈ items, (settled item).wellFormed)
    (itemsAfter? fuel spare)
  members : ∀ spare, Reads (fun members => ∀ member ∈ members, (settled member.2).wellFormed)
    (membersAfter? fuel spare)

namespace ReadsWithin

variable {fuel : Nat}

private theorem value_succ (within : ReadsWithin fuel) (spare : Nat) :
    Reads (fun document => (settled document).wellFormed) (value? (fuel + 1) spare) := by
  intro tokens rest document sound read
  cases tokens with
  | nil => cases read
  | cons token others =>
    obtain ⟨first, later⟩ := List.forall_mem_cons.mp sound
    cases token with
    | number value =>
      cases read
      exact ⟨first, later⟩
    | openList =>
      unfold value? at read
      dsimp only at read
      split at read
      · cases read
      · cases read
        exact ⟨rfl, (List.forall_mem_cons.mp later).2⟩
      · obtain ⟨⟨items, last⟩, inside, same⟩ := Option.map_eq_some_iff.mp read
        cases same
        exact (within.items _ later inside).imp_left settled_array
    | openObject =>
      unfold value? at read
      dsimp only at read
      split at read
      · cases read
      · cases read
        exact ⟨rfl, (List.forall_mem_cons.mp later).2⟩
      · obtain ⟨⟨members, last⟩, inside, same⟩ := Option.map_eq_some_iff.mp read
        cases same
        exact (within.members _ later inside).imp_left settled_object
    | null | bool | string =>
      cases read
      exact ⟨rfl, later⟩
    | closeList | closeObject | colon | comma => cases read

private theorem items_succ (within : ReadsWithin fuel) (spare : Nat) :
    Reads (fun items => ∀ item ∈ items, (settled item).wellFormed)
      (itemsAfter? (fuel + 1) spare) := by
  intro tokens rest items sound read
  rw [itemsAfter?] at read
  split at read
  · next item after first =>
    obtain ⟨wellFormed, left⟩ := within.value _ sound first
    obtain ⟨⟨others, last⟩, later, same⟩ := Option.map_eq_some_iff.mp read
    cases same
    obtain ⟨wellFormedOthers, leftLast⟩ := within.items _ (List.forall_mem_cons.mp left).2 later
    exact ⟨List.forall_mem_cons.mpr ⟨wellFormed, wellFormedOthers⟩, leftLast⟩
  · next item after first =>
    obtain ⟨wellFormed, left⟩ := within.value _ sound first
    cases read
    exact ⟨List.forall_mem_singleton.mpr wellFormed, (List.forall_mem_cons.mp left).2⟩
  · cases read

private theorem members_succ (within : ReadsWithin fuel) (spare : Nat) :
    Reads (fun members => ∀ member ∈ members, (settled member.2).wellFormed)
      (membersAfter? (fuel + 1) spare) := by
  intro tokens rest members sound read
  unfold membersAfter? at read
  split at read
  · cases read
  · next less key after same =>
    cases same
    have inside := (List.forall_mem_cons.mp (List.forall_mem_cons.mp sound).2).2
    split at read
    · next value after first =>
      obtain ⟨wellFormed, left⟩ := within.value _ inside first
      obtain ⟨⟨others, last⟩, later, same⟩ := Option.map_eq_some_iff.mp read
      cases same
      obtain ⟨wellFormedOthers, leftLast⟩ := within.members _ (List.forall_mem_cons.mp left).2 later
      exact ⟨List.forall_mem_cons.mpr ⟨wellFormed, wellFormedOthers⟩, leftLast⟩
    · next value after first =>
      obtain ⟨wellFormed, left⟩ := within.value _ inside first
      cases read
      exact ⟨List.forall_mem_singleton.mpr wellFormed, (List.forall_mem_cons.mp left).2⟩
    · cases read
  · cases read

end ReadsWithin

private theorem readsWithin (fuel : Nat) : ReadsWithin fuel := by
  induction fuel with
  | zero =>
    constructor <;>
    · intro spare tokens rest result _ read
      cases read
  | succ fuel ih => exact ⟨ih.value_succ, ih.items_succ, ih.members_succ⟩

/-- A document that is read from a text is well formed. -/
theorem wellFormed_of_ofText? {text : String} {document : Document} (read : ofText? text = some document) :
    document.wellFormed := by
  obtain ⟨written, accepted, rfl⟩ := Option.map_eq_some_iff.mp read
  obtain ⟨tokens, cut, accepted⟩ := Option.bind_eq_some_iff.mp accepted
  have sound := tokensWithin_inRange cut
  split at accepted
  · next document first =>
    cases accepted
    exact ((readsWithin _).value _ sound first).1
  · cases accepted

end Document

end Intake
