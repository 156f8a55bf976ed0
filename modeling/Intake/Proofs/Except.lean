import Mathlib.Data.List.Forall2

/-! # Sequences of steps that can fail

A computation in `Except` ends in a value if each of its steps does, and what the last one makes of the
values before is its value; at the first step that fails it ends with the fault. Each lemma says for one
way of putting steps together when that comes to which end, so a program is taken apart along them.
-/

namespace Intake

variable {ε δ α β : Type}

/-- Both steps of a sequence succeed. -/
theorem except_bind_eq_ok {first : Except ε α} {next : α → Except ε β} {result : β} :
    (first >>= next) = .ok result ↔ ∃ value, first = .ok value ∧ next value = .ok result := by
  cases first <;> simp [bind, Except.bind]

theorem except_map_eq_ok {change : α → β} {value : Except ε α} {result : β} :
    value.map change = .ok result ↔ ∃ inner, value = .ok inner ∧ change inner = result := by
  cases value <;> simp [Except.map]

theorem except_mapError_eq_ok {change : ε → δ} {value : Except ε α} {result : α} :
    value.mapError change = .ok result ↔ value = .ok result := by
  cases value <;> simp [Except.mapError]

theorem except_mapError_eq_error {change : ε → δ} {value : Except ε α} {error : δ} :
    value.mapError change = .error error ↔ ∃ inner, value = .error inner ∧ change inner = error := by
  cases value <;> simp [Except.mapError]

/-- Every step of a traversal succeeds. -/
theorem except_mapM_eq_ok {step : α → Except ε β} {items : List α} {results : List β} :
    items.mapM step = .ok results ↔
      List.Forall₂ (fun item result => step item = .ok result) items results := by
  induction items generalizing results with
  | nil => cases results <;> simp [pure, Except.pure]
  | cons item items ih =>
    rw [List.mapM_cons, except_bind_eq_ok]
    constructor
    · rintro ⟨head, first, rest⟩
      obtain ⟨tail, others, same⟩ := except_bind_eq_ok.mp rest
      cases same
      exact .cons first (ih.mp others)
    · rintro (_ | ⟨first, others⟩)
      exact ⟨_, first, except_bind_eq_ok.mpr ⟨_, ih.mpr others, rfl⟩⟩

/-- A traversal whose steps have one fault at most stops if one of them has it. -/
theorem except_mapM_eq_error {step : α → Except ε β} {items : List α} {fault : ε}
    (only : ∀ item ∈ items, ∀ other, step item = .error other → other = fault) {stopped : ε} :
    items.mapM step = .error stopped ↔ stopped = fault ∧ ∃ item ∈ items, step item = .error fault := by
  induction items with
  | nil => simp [pure, Except.pure]
  | cons item items ih =>
    have rest := ih fun later member => only later (List.mem_cons_of_mem _ member)
    rw [List.mapM_cons, List.exists_mem_cons_iff]
    cases first : step item with
    | error other =>
      have same := only item (List.mem_cons_self ..) other first
      simp [bind, Except.bind, same, eq_comm]
    | ok result =>
      rw [or_iff_right (by nofun), ← rest]
      cases items.mapM step <;> simp [bind, Except.bind, pure, Except.pure]

end Intake
