import Intake.Proofs.Schema.Agreement

/-! # The order of keys

In a form schema document the keys of every schema, of the properties and of the definitions may come
in another order. The loader then meets the same schemas in another order, each at the cost that it
had, and all of them together must be covered by the same budget. So the document is accepted in the
one order if it is in the other, with schemas whose properties are declared in another order. Which
error is found first, if it is refused, does depend on the order.
-/

namespace Intake

open Load
open Members (find?)

/-- The second document is the first one with the keys of schemas, of properties and of definitions in
another order. -/
abbrev Document.Reordered : Document → Document → Prop := Document.Variant Eq .free

/-- The two schemas are the same up to the order of properties, also in the schemas that they are made
of. -/
inductive Property.Reordered : Property → Property → Prop
  | of_alike {property other : Property} (alike : Property.Alike .free Reordered property other) :
      Reordered property other

namespace Load

variable {α β γ δ : Type}

/-- Whatever the first load yields, the second one yields something related to it for as much as the
first one took from its budget. -/
def Follows (related : α → β → Prop) (load : Load α) (other : Load β) : Prop :=
  ∀ budget value left, Yields load budget value left →
    ∃ result cost, related value result ∧ budget = left + cost ∧ Takes other result cost

variable {related : α → β → Prop} {further : γ → δ → Prop}

private theorem Follows.imp {fits : α → β → Prop} {load : Load α} {other : Load β}
    (follows : Follows related load other) (imp : ∀ value result, related value result → fits value result) :
    Follows fits load other := by
  intro budget value left run
  obtain ⟨result, cost, held, spent, takes⟩ := follows budget value left run
  exact ⟨result, cost, imp value result held, spent, takes⟩

theorem follows_pure {value : α} {other : β} (held : related value other) :
    Follows related (pure value) (pure other) := by
  intro budget result left run
  obtain ⟨rfl, rfl⟩ := yields_pure.mp run
  exact ⟨other, 0, held, rfl, takes_pure other⟩

theorem Follows.bind {first : Load α} {other : Load β} {next : α → Load γ} {rest : β → Load δ}
    (start : Follows related first other)
    (goesOn : ∀ value result budget left, Yields first budget value left → related value result →
      Follows further (next value) (rest result)) :
    Follows further (first >>= next) (other >>= rest) := by
  intro budget result left run
  obtain ⟨value, between, ran, finish⟩ := yields_bind.mp run
  obtain ⟨also, cost, held, rfl, takes⟩ := start _ _ _ ran
  obtain ⟨ends, added, fits, rfl, finishes⟩ := goesOn _ _ _ _ ran held _ _ _ finish
  exact ⟨ends, cost + added, fits, by omega, takes.bind finishes⟩

private theorem follows_throw {error : SchemaError} {other : Load β} :
    Follows related (throw error) other :=
  fun _ _ _ run => absurd run not_yields_throw

/-- What the steps that follow those of a traversal come to, and what they cost together. -/
theorem exists_takes_of_mapM {step : α → Load γ} {also : β → Load δ} {items : List α} {others : List β}
    (steps : List.Forall₂ (fun item other => Follows further (step item) (also other)) items others)
    {budget left : Nat} {values : List γ} (run : Yields (items.mapM step) budget values left) :
    ∃ results : List (δ × Nat), List.Forall₂ further values (results.map (·.1)) ∧
      List.Forall₂ (fun other result => Takes (also other) result.1 result.2) others results ∧
      budget = left + (results.map (·.2)).sum := by
  induction steps generalizing budget values with
  | nil =>
    obtain ⟨rfl, rfl⟩ := yields_mapM_nil.mp run
    exact ⟨[], .nil, .nil, rfl⟩
  | cons first _ ih =>
    obtain ⟨value, between, values, ran, tail, rfl⟩ := yields_mapM_cons.mp run
    obtain ⟨result, cost, fit, rfl, taken⟩ := first _ _ _ ran
    obtain ⟨results, fits, takes, rfl⟩ := ih tail
    refine ⟨(result, cost) :: results, .cons fit fits, .cons taken takes, ?_⟩
    rw [List.map_cons, List.sum_cons]
    omega

/-- Where each step is followed by one, a traversal is followed by these steps in any order. -/
theorem follows_mapM {step : α → Load γ} {also : β → Load δ} {items : List α} {others moved : List β}
    (steps : List.Forall₂ (fun item other => Follows further (step item) (also other)) items others)
    (perm : others.Perm moved) :
    Follows (fun values results => ∃ between, List.Forall₂ further values between ∧
      between.Perm results) (items.mapM step) (moved.mapM also) := by
  intro budget values left run
  obtain ⟨results, fits, takes, spent⟩ := exists_takes_of_mapM steps run
  obtain ⟨arranged, each, same⟩ := List.perm_comp_forall₂ perm.symm takes
  refine ⟨arranged.map (·.1), (arranged.map (·.2)).sum, ?_, ?_, takes_mapM each⟩
  · exact ⟨results.map (·.1), fits, (same.map _).symm⟩
  · rw [spent, (same.map _).sum_eq]

/-- Both loads fail, or they yield related values for the same cost. -/
def acceptance : Agreement where
  Holds related load other := Follows related load other ∧ Follows (flip related) other load
  holds_pure held := ⟨follows_pure held, follows_pure held⟩
  holds_bind start rest :=
    ⟨start.1.bind fun value result _ _ _ held => (rest value result held).1,
      start.2.bind fun result value _ _ _ held => (rest value result held).2⟩
  holds_throw _ := ⟨follows_throw, follows_throw⟩

theorem acceptance_traverses : acceptance.Traverses .free := by
  intro _ _ _ _ related step further items others each
  cases each with
  | @free _ moved _ perm each =>
    constructor
    · obtain ⟨between, first, same⟩ := List.perm_comp_forall₂ perm
        (each.imp fun _ _ holds => holds.1)
      refine (follows_mapM first same).imp fun values results arranged => ?_
      obtain ⟨between, fits, same⟩ := arranged
      obtain ⟨moved, same, fits⟩ : Relation.Comp List.Perm (List.Forall₂ related) values results :=
        List.forall₂_comp_perm_eq_perm_comp_forall₂ ▸ ⟨between, fits, same⟩
      exact .free same fits
    · have second := follows_mapM (each.imp fun _ _ holds => holds.2).flip perm.symm
      refine second.imp fun results values arranged => ?_
      obtain ⟨between, fits, same⟩ := arranged
      exact .free same.symm fits.flip

end Load

namespace Loader

variable {loader another : Loader} {document other : Document} {members others : Members}

private theorem charge_follows (loader another : Loader) (path pathToo : String) :
    Follows Eq (loader.charge path : Load Unit) (another.charge pathToo) := fun _ _ _ run =>
  ⟨(), 1, rfl, charge_yields_iff.mp run, fun _ => charge_yields_iff.mpr rfl⟩

private theorem charge_acceptance (loader another : Loader) (path pathToo : String) :
    acceptance.Holds Eq (loader.charge path : Load Unit) (another.charge pathToo) := by
  refine ⟨charge_follows _ _ _ _, (charge_follows _ _ _ _).imp ?_⟩
  rintro _ _ rfl
  rfl

/-- Whatever is being expanded, an object and a reordering of it are both loaded as schemas that are
reorderings of each other, at the same cost, or neither is loaded. -/
theorem loadWithin_object_reordered (corresponds : loader.Corresponds Eq .free another) (room : Nat)
    (expanding : List String) (name path pathToo : String)
    (variant : Members.Variant Eq .free members others)
    (sound : (Document.object members).wellFormed) (also : (Document.object others).wellFormed) :
    acceptance.Holds Property.Reordered
      (loader.loadWithin room expanding name path (.object members))
      (another.loadWithin room expanding name pathToo (.object others)) := by
  induction room generalizing expanding name path pathToo members others with
  | zero => exact acceptance.holds_throw rfl
  | succ room ih =>
    rw [loadWithin_object, loadWithin_object]
    have within : acceptance.Within Eq .free Property.Reordered (loader.loadWithin room expanding)
        (another.loadWithin room expanding) members others := by
      refine ⟨acceptance_traverses, variant, sound, also, fun variant sound also name _ _ => ?_⟩
      exact Agreement.of_objects (fun members others => ih expanding name _ _) (fun document noObject =>
        acceptance.loadWithin_of_noObject noObject room expanding expanding name _ _) variant sound also
    refine within.schema corresponds (fun _ _ => .of_alike) (charge_acceptance ..) ?_ ?_
    · rintro text _ rfl
      rfl
    · rintro text _ merged mergedToo rfl
      exact ih (text :: expanding) name path pathToo

theorem load_reordered (corresponds : loader.Corresponds Eq .free another)
    (same : loader.maxDepth = another.maxDepth) (name path : String)
    (reordered : document.Reordered other) (sound : document.wellFormed) (also : other.wellFormed) :
    acceptance.Holds Property.Reordered (loader.load name path document)
      (another.load name path other) := by
  rw [load, load, same]
  exact Agreement.of_objects
    (fun members others => loadWithin_object_reordered corresponds _ [] name path path)
    (fun document noObject => acceptance.loadWithin_of_noObject noObject _ [] [] name path path)
    reordered sound also

end Loader

end Intake
