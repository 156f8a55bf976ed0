import Intake.Proofs.Schema.Loading
import Intake.Proofs.Schema.Relation
import Mathlib.Order.Nat

/-! # The limits of a load are thresholds

Loaders that differ in their limits alone go through a document in step until one of them runs into
a limit. So where one of them loads a schema the other one loads the same schema at the same cost,
or ends at a limit. It cannot end at one if it has as much depth as the first one, and a budget for
the cost. What a schema needs is therefore one least depth and its own size, and nothing else about
the limits is ever seen in the outcome.
-/

namespace Intake

/-- The fault is that a schema nests too deep or is too large. -/
def SchemaFault.isLimit (fault : SchemaFault) : Prop :=
  fault.faultClass = .depthExceeded ∨ fault.faultClass = .tooLarge

namespace Load

variable {α β : Type}

/-- However a load ends, it leaves no more of the budget than it found. -/
def spending : LoadRelation Load Load where
  Holds load _ := ∀ budget, ((ExceptT.run load).run budget).2 ≤ budget
  holds_pure _ budget := le_refl budget
  holds_bind {_ _ first _ _ _} start rest budget := by
    have taken := start budget
    rw [run_bind]
    rcases ended : (ExceptT.run first).run budget with ⟨_ | value, between⟩ <;> rw [ended] at taken
    · exact taken
    · exact (rest value between).trans taken
  holds_fail _ _ _ _ _ budget := le_refl budget

private theorem Yields.le {load : Load α} {budget left : Nat} {value : α}
    (run : Yields load budget value left) (spends : spending.Holds load load) : left ≤ budget := by
  have taken := spends budget
  rw [run.run_eq] at taken
  exact taken

/-- With the given budget the load ends at a limit. -/
def StopsAtLimit (load : Load α) (budget : Nat) : Prop :=
  ∃ error left, (ExceptT.run load).run budget = (.error error, left) ∧ error.fault.isLimit

theorem StopsAtLimit.bind {first : Load α} {budget : Nat} (stops : StopsAtLimit first budget)
    (next : α → Load β) : StopsAtLimit (first >>= next) budget := by
  obtain ⟨error, left, run, limit⟩ := stops
  refine ⟨error, left, ?_, limit⟩
  rw [run_bind, run]

theorem StopsAtLimit.bind_of_yields {first : Load α} {next : α → Load β} {budget between : Nat}
    {value : α} (start : Yields first budget value between)
    (stops : StopsAtLimit (next value) between) : StopsAtLimit (first >>= next) budget := by
  obtain ⟨error, left, run, limit⟩ := stops
  refine ⟨error, left, ?_, limit⟩
  rw [run_bind, start.run_eq]
  exact run

/-- With any budget the load yields the value at a cost, or it ends at a limit. It is not the depth
that it ends at if that is `deep` enough, so it is then the budget, which falls short of the cost. -/
def YieldsOrStops (deep : Prop) (load : Load α) (value : α) (cost : Nat) : Prop :=
  ∀ budget, (∃ left, budget = left + cost ∧ Yields load budget value left) ∨
    (StopsAtLimit load budget ∧ (deep → budget < cost))

/-- What one load yields, the other one yields at the same cost unless it ends at a limit. -/
def thresholds (deep : Prop) : LoadRelation Load Load where
  Holds load other := ∀ budget value left, Yields load budget value left →
    ∃ cost, budget = left + cost ∧ YieldsOrStops deep other value cost
  holds_pure value budget result left run := by
    obtain ⟨rfl, rfl⟩ := yields_pure.mp run
    exact ⟨0, rfl, fun other => .inl ⟨other, rfl, yields_pure.mpr ⟨rfl, rfl⟩⟩⟩
  holds_bind {_ _ first other next further} start rest budget result left run := by
    obtain ⟨value, between, ran, finish⟩ := yields_bind.mp run
    obtain ⟨cost, rfl, firstEnds⟩ := start _ _ _ ran
    obtain ⟨added, rfl, restEnds⟩ := rest value _ _ _ finish
    refine ⟨added + cost, by omega, fun budget => ?_⟩
    rcases firstEnds budget with ⟨between, rfl, yields⟩ | ⟨stops, short⟩
    · rcases restEnds between with ⟨left, rfl, ends⟩ | ⟨stops, short⟩
      · exact .inl ⟨left, by omega, yields_bind.mpr ⟨value, _, yields, ends⟩⟩
      · refine .inr ⟨.bind_of_yields yields stops, fun deep => ?_⟩
        have missing := short deep
        omega
    · refine .inr ⟨stops.bind further, fun deep => ?_⟩
      have missing := short deep
      omega
  holds_fail path fault _ next further budget value left run := by
    obtain ⟨_, _, ran, -⟩ := yields_bind.mp run
    exact absurd ran not_yields_fail

end Load

namespace Loader

open Load

variable {loader : Loader} {definitions : Members} {name path : String} {document : Document}

private theorem charge_spends (path : String) :
    spending.Holds (loader.charge path) (loader.charge path) := by
  intro budget
  cases budget with
  | zero => exact le_refl 0
  | succ left => exact Nat.le_succ left

theorem loadWithin_spends (loader : Loader) (room : Nat) (expanding : List String) (name path : String)
    (document : Document) :
    spending.Holds (loader.loadWithin room expanding name path document)
      (loader.loadWithin room expanding name path document) := by
  induction room generalizing expanding name path document with
  | zero => exact fun budget => le_refl budget
  | succ room ih =>
    rw [loadWithin]
    split
    · exact fun budget => le_refl budget
    · next members _ =>
      split
      · have within : spending.HoldsWithin (loader.loadWithin room expanding)
            (loader.loadWithin room expanding) members := fun name path document _ =>
          ih expanding name path document
        exact within.property (charge_spends path)
      · split
        · exact fun budget => le_refl budget
        · exact ih _ name path _

private theorem charge_thresholds (deep : Prop) (depth nodes otherDepth otherNodes : Nat)
    (path : String) : (thresholds deep).Holds ((Loader.mk definitions depth nodes).charge path)
      ((Loader.mk definitions otherDepth otherNodes).charge path) := by
  intro budget _ left run
  refine ⟨1, charge_yields_iff.mp run, fun other => ?_⟩
  cases other with
  | zero => exact .inr ⟨⟨_, _, rfl, .inr rfl⟩, fun _ => Nat.zero_lt_one⟩
  | succ rest => exact .inl ⟨rest, rfl, charge_yields_iff.mpr rfl⟩

/-- Loaders with the same definitions go through a document in step. The one that has less room to go
down may end at its depth. -/
theorem loadWithin_thresholds {deep : Prop} {depth nodes otherDepth otherNodes room otherRoom : Nat}
    (enough : deep → room ≤ otherRoom) (expanding : List String) (name path : String)
    (document : Document) :
    (thresholds deep).Holds
      ((Loader.mk definitions depth nodes).loadWithin room expanding name path document)
      ((Loader.mk definitions otherDepth otherNodes).loadWithin otherRoom expanding name path
        document) := by
  induction room generalizing otherRoom expanding name path document with
  | zero => exact fun _ _ _ run => absurd run not_yields_fail
  | succ room ih =>
    cases otherRoom with
    | zero =>
      intro budget property left run
      have taken := run.le (loadWithin_spends _ (room + 1) expanding name path document)
      obtain ⟨cost, rfl⟩ := Nat.exists_eq_add_of_le taken
      refine ⟨cost, rfl, fun other => .inr ⟨⟨_, _, rfl, .inl rfl⟩, fun deep => ?_⟩⟩
      have impossible := enough deep
      omega
    | succ otherRoom =>
      have deeper := fun deep => Nat.le_of_succ_le_succ (enough deep)
      rw [loadWithin, loadWithin]
      cases document.members? with
      | none => exact fun _ _ _ run => absurd run not_yields_fail
      | some members =>
        dsimp only
        cases members.find? "$ref" with
        | none =>
          have within : (thresholds deep).HoldsWithin
              ((Loader.mk definitions depth nodes).loadWithin room expanding)
              ((Loader.mk definitions otherDepth otherNodes).loadWithin otherRoom expanding)
              members := fun name path document _ => ih deeper expanding name path document
          exact within.property (charge_thresholds deep depth nodes otherDepth otherNodes path)
        | some reference =>
          -- What a reference stands for does not depend on the limits.
          have expands : (Loader.mk definitions otherDepth otherNodes).expand expanding path reference
              members = (Loader.mk definitions depth nodes).expand expanding path reference members :=
            rfl
          dsimp only
          rw [expands]
          cases (Loader.mk definitions depth nodes).expand expanding path reference members with
          | error error => exact fun _ _ _ run => absurd run not_yields_throw
          | ok expanded => exact ih deeper (expanded.1 :: expanding) name path _

/-- Under any other limits the schema that was loaded is loaded at its size, or a limit is met. -/
theorem load_yieldsOrStops {depth nodes budget left : Nat} {property : Property}
    (defined : (Document.object definitions).wellFormed) (sound : document.wellFormed)
    (run : Yields ((Loader.mk definitions depth nodes).load name path document) budget property left)
    (otherDepth otherNodes : Nat) :
    YieldsOrStops (depth ≤ otherDepth)
      ((Loader.mk definitions otherDepth otherNodes).load name path document) property
      property.size := by
  obtain ⟨cost, taken, ends⟩ :=
    loadWithin_thresholds (fun deep => Nat.succ_le_succ deep) [] name path document _ _ _ run
  have size := (load_sound defined sound run).2
  have same : cost = property.size := by omega
  exact same ▸ ends

/-- What a loader that has its whole budget makes of a schema. -/
def outcome (loader : Loader) (name path : String) (document : Document) :
    Except SchemaError Property :=
  (loader.run (loader.load name path document)).1

theorem outcome_eq_ok_iff {loader : Loader} {property : Property} :
    loader.outcome name path document = .ok property ↔
      ∃ left, Yields (loader.load name path document) loader.maxNodes property left := by
  constructor
  · exact fun loaded => ⟨_, Prod.ext loaded rfl⟩
  · rintro ⟨left, run⟩
    exact congrArg Prod.fst run

/-- Where a schema is loaded under some limits, a depth and a budget are enough to load it if and only
if they reach its least depth and its size. Otherwise the load ends at one of the two limits. -/
theorem load_thresholds {maxDepth maxNodes : Nat} {property : Property}
    (defined : (Document.object definitions).wellFormed) (sound : document.wellFormed)
    (loads : (Loader.mk definitions maxDepth maxNodes).outcome name path document = .ok property) :
    ∃ height, ∀ depth nodes,
      ((Loader.mk definitions depth nodes).outcome name path document = .ok property ↔
        height ≤ depth ∧ property.size ≤ nodes) ∧
      ((Loader.mk definitions depth nodes).outcome name path document ≠ .ok property → ∃ error,
        (Loader.mk definitions depth nodes).outcome name path document = .error error ∧
          (error.fault.faultClass = .depthExceeded ∨ error.fault.faultClass = .tooLarge)) := by
  classical
  obtain ⟨_, run⟩ := outcome_eq_ok_iff.mp loads
  -- The least depth is the least one at which a budget of the size is enough.
  let loadsAt (depth : Nat) : Prop := ∃ left, Yields
    ((Loader.mk definitions depth property.size).load name path document) property.size property left
  have loadsAt_of_yields {depth nodes budget left : Nat}
      (run : Yields ((Loader.mk definitions depth nodes).load name path document) budget property
        left) : loadsAt depth := by
    rcases load_yieldsOrStops defined sound run depth property.size property.size with
      ⟨left, -, yields⟩ | ⟨-, short⟩
    · exact ⟨left, yields⟩
    · exact absurd (short (le_refl depth)) (lt_irrefl _)
  have reached : ∃ depth, loadsAt depth := ⟨maxDepth, loadsAt_of_yields run⟩
  obtain ⟨_, least⟩ := Nat.find_spec reached
  refine ⟨Nat.find reached, fun depth nodes => ?_⟩
  rcases load_yieldsOrStops defined sound run depth nodes nodes with
    ⟨left, enough, yields⟩ | ⟨stops, -⟩
  · have loaded := outcome_eq_ok_iff.mpr ⟨left, yields⟩
    refine ⟨⟨fun _ => ⟨?_, ?_⟩, fun _ => loaded⟩, fun other => absurd loaded other⟩
    · exact Nat.find_min' reached (loadsAt_of_yields yields)
    · omega
  · obtain ⟨error, rest, failed, limit⟩ := stops
    have refused : (Loader.mk definitions depth nodes).outcome name path document = .error error :=
      congrArg Prod.fst failed
    refine ⟨⟨fun loaded => ?_, fun ⟨deep, large⟩ => ?_⟩, fun _ => ⟨error, refused, limit⟩⟩
    · cases refused.symm.trans loaded
    · exfalso
      rcases load_yieldsOrStops defined sound least depth nodes nodes with
        ⟨left, -, yields⟩ | ⟨-, short⟩
      · cases failed.symm.trans yields
      · have missing := short deep
        omega

/-- A list of words is loaded under ample limits, so it has a least depth; its size is two, though
the reference to what a word is makes it a level deeper. -/
theorem load_thresholds_list :
    let definitions : Members := [("word", .object [("type", .string "string")])]
    let words : Document := .object [("items", .object [("$ref", .string "#/$defs/word")])]
    let word : Property := .plain "items" (.string ⟨none, none, none, none, none, none⟩)
    let loaded : Property :=
      .plain "words" (.array ⟨none, none, none, none, false⟩ (some word) none)
    (Document.object definitions).wellFormed ∧ words.wellFormed ∧
      (Loader.mk definitions 9 9).outcome "words" "#" words = .ok loaded ∧
      ∃ height, ∀ depth nodes,
        ((Loader.mk definitions depth nodes).outcome "words" "#" words = .ok loaded ↔
          height ≤ depth ∧ loaded.size ≤ nodes) ∧
        ((Loader.mk definitions depth nodes).outcome "words" "#" words ≠ .ok loaded → ∃ error,
          (Loader.mk definitions depth nodes).outcome "words" "#" words = .error error ∧
            (error.fault.faultClass = .depthExceeded ∨ error.fault.faultClass = .tooLarge)) := by
  intro definitions words word loaded
  have defined : (Document.object definitions).wellFormed := by decide
  have sound : words.wellFormed := by decide
  have loads : (Loader.mk definitions 9 9).outcome "words" "#" words = .ok loaded := rfl
  exact ⟨defined, sound, loads, load_thresholds defined sound loads⟩

end Loader

end Intake
