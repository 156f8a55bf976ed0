import Intake.Schema.Loading
import Mathlib.Algebra.Order.Ring.Nat
import Mathlib.Data.List.Forall2

/-! # Runs of a load

A load takes schemas from a budget. It yields a value when it succeeds with it and leaves a certain
budget; how sequences and traversals yield follows from how their steps do.
-/

namespace Intake.Load

variable {α β : Type}

/-- With the given budget the load succeeds with a value and leaves the rest of the budget. -/
def Yields (load : Load α) (budget : Nat) (value : α) (left : Nat) : Prop :=
  (ExceptT.run load).run budget = (.ok value, left)

theorem Yields.run_eq {load : Load α} {budget left : Nat} {value : α}
    (yields : Yields load budget value left) :
    (ExceptT.run load).run budget = (.ok value, left) := yields

theorem yields_pure {value result : α} {budget left : Nat} :
    Yields (pure value) budget result left ↔ value = result ∧ budget = left := by
  constructor
  · rintro ⟨⟩
    exact ⟨rfl, rfl⟩
  · rintro ⟨rfl, rfl⟩
    rfl

theorem not_yields_throw {error : SchemaError} {budget left : Nat} {value : α} :
    ¬Yields (throw error) budget value left := by
  rintro ⟨⟩

theorem not_yields_fail {path : String} {fault : SchemaFault} {budget left : Nat} {value : α} :
    ¬Yields (fail path fault) budget value left :=
  not_yields_throw

/-- A sequence goes on with the state that its first part leaves, unless that fails. -/
theorem run_bind {σ : Type} (first : ExceptT SchemaError (StateM σ) α)
    (next : α → ExceptT SchemaError (StateM σ) β) (state : σ) :
    (ExceptT.run (first >>= next)).run state =
      match (ExceptT.run first).run state with
      | (.ok value, between) => (ExceptT.run (next value)).run between
      | (.error error, between) => (.error error, between) := by
  rw [ExceptT.run_bind, StateT.run_bind]
  rcases (ExceptT.run first).run state with ⟨_ | _, _⟩ <;> rfl

/-- A sequence yields what its second load makes of the value and of the budget of the first. -/
theorem yields_bind {first : Load α} {next : α → Load β} {budget left : Nat} {result : β} :
    Yields (first >>= next) budget result left ↔
      ∃ value between, Yields first budget value between ∧ Yields (next value) between result left := by
  simp only [Yields, run_bind]
  rcases (ExceptT.run first).run budget with ⟨error | value, between⟩
  · constructor
    · rintro ⟨⟩
    · rintro ⟨_, _, ⟨⟩, _⟩
  · constructor
    · exact fun rest => ⟨value, between, rfl, rest⟩
    · rintro ⟨_, _, ⟨⟩, rest⟩
      exact rest

theorem yields_map {load : Load α} {change : α → β} {budget left : Nat} {result : β} :
    Yields (change <$> load) budget result left ↔
      ∃ value, Yields load budget value left ∧ change value = result := by
  rw [map_eq_pure_bind, yields_bind]
  constructor
  · rintro ⟨value, between, first, rest⟩
    obtain ⟨same, rfl⟩ := yields_pure.mp rest
    exact ⟨value, first, same⟩
  · rintro ⟨value, first, same⟩
    exact ⟨value, left, first, yields_pure.mpr ⟨same, rfl⟩⟩

theorem yields_keyword {path : String} {value : Except SchemaFault α} {result : α}
    {budget left : Nat} :
    Yields (keyword path value) budget result left ↔ value = .ok result ∧ budget = left := by
  cases value with
  | ok found =>
    rw [keyword, yields_pure, Except.ok.injEq]
  | error fault => simp [keyword, not_yields_fail]

theorem yields_mapM_nil {step : α → Load β} {budget left : Nat} {values : List β} :
    Yields ([].mapM step) budget values left ↔ values = [] ∧ budget = left := by
  rw [List.mapM_nil, yields_pure, eq_comm]

/-- A traversal yields the value of its first step, and after it what the others yield. -/
theorem yields_mapM_cons {step : α → Load β} {item : α} {items : List α} {budget left : Nat}
    {values : List β} :
    Yields ((item :: items).mapM step) budget values left ↔
      ∃ value between others, Yields (step item) budget value between ∧
        Yields (items.mapM step) between others left ∧ values = value :: others := by
  rw [List.mapM_cons, yields_bind]
  constructor
  · rintro ⟨value, between, first, rest⟩
    obtain ⟨others, _, tail, finish⟩ := yields_bind.mp rest
    obtain ⟨rfl, rfl⟩ := yields_pure.mp finish
    exact ⟨value, between, others, first, tail, rfl⟩
  · rintro ⟨value, between, others, first, tail, rfl⟩
    exact ⟨value, between, first, yields_bind.mpr ⟨others, left, tail, yields_pure.mpr ⟨rfl, rfl⟩⟩⟩

/-- Where every step yields a value that is allowed and fits its item, and takes its cost from the
budget, so does a traversal as a whole. -/
theorem forall₂_of_yields_mapM {step : α → Load β} (allowed : β → Prop) (fits : α → β → Prop)
    (cost : β → Nat) {items : List α}
    (steps : ∀ item ∈ items, ∀ budget value left, Yields (step item) budget value left →
      allowed value ∧ fits item value ∧ budget = left + cost value)
    {budget left : Nat} {values : List β} (run : Yields (items.mapM step) budget values left) :
    (∀ value ∈ values, allowed value) ∧ List.Forall₂ fits items values ∧
      budget = left + (values.map cost).sum := by
  induction items generalizing budget values with
  | nil =>
    obtain ⟨rfl, rfl⟩ := yields_mapM_nil.mp run
    exact ⟨by simp, .nil, rfl⟩
  | cons item items ih =>
    obtain ⟨value, between, others, first, tail, rfl⟩ := yields_mapM_cons.mp run
    obtain ⟨head, fit, taken⟩ := steps item (List.mem_cons_self ..) _ _ _ first
    obtain ⟨all, related, total⟩ :=
      ih (fun other member => steps other (List.mem_cons_of_mem _ member)) tail
    refine ⟨List.forall_mem_cons.mpr ⟨head, all⟩, .cons fit related, ?_⟩
    rw [List.map_cons, List.sum_cons]
    omega

/-- Where a traversal yields values, each of its steps yields its value. -/
theorem forall₂_yields_of_mapM {step : α → Load β} {items : List α} {budget left : Nat}
    {values : List β} (run : Yields (items.mapM step) budget values left) :
    List.Forall₂ (fun item value => ∃ budget left, Yields (step item) budget value left) items
      values := by
  induction items generalizing budget values with
  | nil =>
    obtain ⟨rfl, rfl⟩ := yields_mapM_nil.mp run
    exact .nil
  | cons item items ih =>
    obtain ⟨value, between, others, first, tail, rfl⟩ := yields_mapM_cons.mp run
    exact .cons ⟨budget, between, first⟩ (ih tail)

/-- From whatever budget covers its cost, the load yields the value. -/
def Takes (load : Load α) (value : α) (cost : Nat) : Prop :=
  ∀ left, Yields load (left + cost) value left

theorem takes_pure (value : α) : Takes (pure value) value 0 := fun _ => yields_pure.mpr ⟨rfl, rfl⟩

theorem Takes.bind {first : Load α} {next : α → Load β} {value : α} {result : β} {cost added : Nat}
    (start : Takes first value cost) (rest : Takes (next value) result added) :
    Takes (first >>= next) result (cost + added) := by
  intro left
  refine yields_bind.mpr ⟨value, left + added, ?_, rest left⟩
  rw [Nat.add_comm cost, ← Nat.add_assoc]
  exact start _

/-- Where every step takes its cost for a value, a traversal takes the sum for all of them. -/
theorem takes_mapM {step : α → Load β} {items : List α} {results : List (β × Nat)}
    (steps : List.Forall₂ (fun item result => Takes (step item) result.1 result.2) items results) :
    Takes (items.mapM step) (results.map (·.1)) (results.map (·.2)).sum := by
  induction steps with
  | nil => exact takes_pure []
  | cons first _ ih =>
    rw [List.mapM_cons, List.map_cons, List.map_cons, List.sum_cons]
    exact first.bind fun left => yields_bind.mpr ⟨_, _, ih left, yields_pure.mpr ⟨rfl, rfl⟩⟩

/-- Where every step yields a given value at its cost from whatever budget covers it, a traversal
yields these values at the sum of the costs. -/
theorem yields_mapM {step : α → Load β} {cost : β → Nat} {items : List α} {values : List β}
    (steps : List.Forall₂ (fun item value => Takes (step item) value (cost value)) items values)
    (left : Nat) : Yields (items.mapM step) (left + (values.map cost).sum) values left := by
  have each : List.Forall₂ (fun item result => Takes (step item) result.1 result.2) items
      (values.map fun value => (value, cost value)) := by
    rwa [List.forall₂_map_right_iff]
  simpa [Function.comp_def] using takes_mapM each left

end Intake.Load
