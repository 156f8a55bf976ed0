import Intake.Schema.Keyword
import Intake.Proofs.Document.WellFormed
import Intake.Proofs.Except

/-! # What a keyword is read from

Reading a keyword succeeds with a value exactly when the object holds that value under the key in
the form in which it is written, so each lemma here serves reading and writing alike. An absent
keyword stands for no value, and an absent flag also for one that is off.
-/

namespace Intake

/-- A count fits in an unsigned 64-bit word. -/
def IsCount (n : Nat) : Prop := fitsUnsigned n

namespace Document

private theorem count?_eq_some_iff {document : Document} {count : Nat} :
    document.number?.bind Number.toUnsigned? = some count ↔
      document = ofNat count ∧ IsCount count := by
  constructor
  · intro read
    obtain ⟨number, isNumber, unsigned⟩ := Option.bind_eq_some_iff.mp read
    rw [number?_eq_some_iff.mp isNumber]
    cases number with
    | integer value =>
      by_cases fits : fitsUnsigned value
      · rw [Number.toUnsigned?, if_pos fits, Option.some.injEq] at unsigned
        have nonnegative : 0 ≤ value := of_decide_eq_true (Bool.and_eq_true _ _ ▸ fits).1
        have whole : (count : Int) = value := unsigned ▸ Int.toNat_of_nonneg nonnegative
        rw [IsCount, ofNat, ofInt, whole]
        exact ⟨rfl, fits⟩
      · rw [Number.toUnsigned?, if_neg fits] at unsigned
        cases unsigned
    | real value => cases unsigned
  · rintro ⟨rfl, fits⟩
    rw [IsCount] at fits
    rw [ofNat, ofInt, number?, Option.bind_some, Number.toUnsigned?, if_pos fits,
      Int.toNat_natCast]

end Document

namespace Keyword

open Members (find?)

variable {members : Members} {key : String}

/-- A keyword is read from the document that writes its value. -/
theorem optional_eq_ok_iff {α : Type} {read? : Document → Option α} {expected : Expectation}
    {write : α → Document} {proper : α → Prop}
    (read_iff : ∀ document value, read? document = some value ↔
      document = write value ∧ proper value) {value : Option α} :
    optional read? expected members key = .ok value ↔
      find? members key = value.map write ∧ ∀ result ∈ value, proper result := by
  rw [optional]
  cases found : find? members key with
  | none => cases value <;> simp
  | some document =>
    have inverse := read_iff document
    cases read : read? document with
    | none =>
      cases value with
      | none => simp [read, unexpected]
      | some result => simpa [read, unexpected] using inverse result
    | some result =>
      have written := (inverse result).mp read
      cases value with
      | none => simp [read]
      | some other => simpa [read] using inverse other

/-- A keyword is read from the document that writes its value, whatever that value is. -/
theorem optional_eq_ok_iff_find? {α : Type} {read? : Document → Option α} {expected : Expectation}
    {write : α → Document}
    (read_iff : ∀ document value, read? document = some value ↔ document = write value)
    {value : Option α} :
    optional read? expected members key = .ok value ↔ find? members key = value.map write := by
  have any (document : Document) (value : α) :
      read? document = some value ↔ document = write value ∧ True := by
    rw [read_iff, and_true]
  rw [optional_eq_ok_iff any]
  exact and_iff_left fun _ _ => trivial

section Unless

variable {absent : Prop} [Decidable absent]

/-- Entries that are only written if there are any are read back, and as none if there are none. -/
theorem optional_of_unless {α : Type} {read? : Document → Option (List α)} {expected : Expectation}
    {write : List α → Document} (read_write : ∀ entries, read? (write entries) = some entries)
    {entries : List α} (none_of_absent : absent → entries = [])
    (found : find? members key = if absent then none else some (write entries)) :
    ∃ value, optional read? expected members key = .ok value ∧ value.getD [] = entries := by
  rw [optional, found]
  by_cases left : absent
  · rw [if_pos left]
    exact ⟨none, rfl, (none_of_absent left).symm⟩
  · rw [if_neg left]
    exact ⟨some entries, by simp only [read_write], rfl⟩

theorem object_of_unless {entries : Members} (none_of_absent : absent → entries = [])
    (found : find? members key = if absent then none else some (.object entries)) :
    ∃ value, optional Document.members? .object members key = .ok value ∧ value.getD [] = entries := by
  apply optional_of_unless _ none_of_absent found
  intro entries
  rfl

theorem list_of_unless {items : List Document} (none_of_absent : absent → items = [])
    (found : find? members key = if absent then none else some (.array items)) :
    ∃ value, list members key = .ok value ∧ value.getD [] = items := by
  apply optional_of_unless _ none_of_absent found
  intro items
  rfl

end Unless

theorem string_eq_ok_iff {value : Option String} :
    string members key = .ok value ↔ find? members key = value.map .string :=
  optional_eq_ok_iff_find? fun _ _ => Document.string?_eq_some_iff

theorem number_eq_ok_iff {value : Option Number} :
    number members key = .ok value ↔ find? members key = value.map .number :=
  optional_eq_ok_iff_find? fun _ _ => Document.number?_eq_some_iff

theorem list_eq_ok_iff {value : Option (List Document)} :
    list members key = .ok value ↔ find? members key = value.map .array :=
  optional_eq_ok_iff_find? fun _ _ => Document.items?_eq_some_iff

theorem object_eq_ok_iff {value : Option Members} :
    optional Document.members? .object members key = .ok value ↔
      find? members key = value.map .object :=
  optional_eq_ok_iff_find? fun _ _ => Document.members?_eq_some_iff

theorem count_eq_ok_iff {value : Option Nat} :
    count members key = .ok value ↔
      find? members key = value.map .ofNat ∧ ∀ n ∈ value, IsCount n :=
  optional_eq_ok_iff fun _ _ => Document.count?_eq_some_iff

theorem flag_eq_ok_iff {value : Bool} :
    flag members key = .ok value ↔
      find? members key = some (.bool value) ∨ find? members key = none ∧ value = false := by
  have read (flag : Option Bool) : optional Document.bool? .boolean members key = .ok flag ↔
      find? members key = flag.map .bool :=
    optional_eq_ok_iff_find? fun _ _ => Document.bool?_eq_some_iff
  rw [flag, except_bind_eq_ok]
  constructor
  · rintro ⟨flag, present, same⟩
    cases same
    cases flag with
    | none => exact .inr ⟨(read none).mp present, rfl⟩
    | some flag => exact .inl ((read (some flag)).mp present)
  · rintro (present | ⟨absent, rfl⟩)
    · exact ⟨some value, (read _).mpr present, rfl⟩
    · exact ⟨none, (read _).mpr absent, rfl⟩

/-- A list of strings is read from the documents that write them. -/
theorem strings_eq_ok_iff {items : List Document} {values : List String} :
    strings items key = .ok values ↔ items = values.map .string := by
  rw [strings, except_mapM_eq_ok, ← List.forall₂_eq_eq_eq, List.forall₂_map_right_iff]
  refine Iff.of_eq (congrArg (fun relation => List.Forall₂ relation items values) ?_)
  funext item value
  cases item <;> simp

end Keyword

end Intake
